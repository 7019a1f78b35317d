/-
**What comes of handling a key.**

Whatever goes wrong while a key is decided, the key is let through and the record says what went wrong.
A failure can come from outside of the decision, though: from the table of key names, which has something
under the names that every record has, and from the note that is taken of what went wrong.

* `normalKey?_eq_none_iff`: the keys without a name;
* `Note.IsTakenBy`: a note can be taken;
* `Session.attendsTo`, `Session.contextOf`, `Session.verdict`: what handling a key goes through;
* `Session.handleKey_decided`: what comes of a key that is decided.

`Session.handleKey_returns_iff` says exactly when there is something to do for a key, and what that is
where a condition of a rule or a question to the host fails.
-/

import Pairing.Engine.Session
import Pairing.Proofs.Definition.Compiled
import Pairing.Proofs.Engine.Notes
import Pairing.Proofs.Query.Parts

namespace Pairing

/-! ### Names of keys -/

theorem inherited?_of_alias {key name : Text} (known : (key, name) ∈ keyAliases) :
    inherited? key = none := by
  have each : ∀ entry ∈ keyAliases, inherited? entry.1 = none := by decide +kernel
  exact each _ known

/-- A key has no name if every record has something under it. -/
theorem normalKey?_eq_none_iff {key : Text} : normalKey? key = none ↔ inherited? key ≠ none := by
  unfold normalKey?
  split
  · next known name found =>
    have same : known = key := by simpa using List.find?_some found
    have noMember := inherited?_of_alias (List.mem_of_find?_eq_some found)
    rw [same] at noMember
    simp [noMember]
  · cases inherited? key <;> simp

/-! ### Notes -/

/-- A note can be taken: it is left out, or it can be put into words and printed. -/
def Note.IsTakenBy (note : Note Unit) (filter : TopicFilter) : Prop :=
  filter.accepts note.topic = true →
    (∃ message, Log.wording note.filled = .ok message) ∧ Printing.cause? note.filled = none

theorem Note.failure_eq_none_iff {note : Note Unit} (log : Log) (filter : TopicFilter) (time : Int) :
    (log.note filter time note).failure = none ↔ note.IsTakenBy filter := by
  unfold Log.note IsTakenBy Log.output Log.record
  by_cases kept : filter.accepts note.topic = true
  · rw [if_pos kept]
    cases Log.wording note.filled <;> simp [kept, Except.map]
  · simp [kept]

theorem Note.filled_of (part : String) (message : Text) (details : List (Data Unit)) :
    (Note.of part message details).filled =
      .text (topicOf part ++ [Text.space] ++ (fillMarks 0 details message).1) ::
        (fillMarks 0 details message).2 := rfl

theorem Note.fillMarks_nil (counted : Nat) (pattern : Text) {details : List (Data Unit)}
    (none : details = []) : (fillMarks counted details pattern).2 = [] := by
  fun_induction fillMarks counted details pattern <;> simp_all

theorem Note.isTakenBy_of_message (part : String) (message : Text) (filter : TopicFilter) :
    (Note.of part message [] : Note Unit).IsTakenBy filter := by
  intro _
  rw [filled_of, fillMarks_nil 0 message rfl]
  exact ⟨⟨_, rfl⟩, Printing.cause?_single _⟩

/-! ### Keys that are decided -/

/-- The computation of what a key of a kind does. -/
def RuleIndex.decision (index : RuleIndex) (kind : KeyKind) (key : Text) : Query Outcome :=
  match kind with
  | .printable => Pairing.decidePrintable index key
  | .backspace => Pairing.decideBackspace index
  | .enter => Pairing.decideEnter index
  | .space => Pairing.decideSpace index

theorem RuleIndex.decide_eq_ofQuery {index : RuleIndex} {name : Text} {kind : KeyKind}
    (known : keyKind? name = some kind) (ctx : Context) :
    index.decide kind name ctx = .ofQuery name kind (index.decision kind name) ctx := by
  unfold keyKind? at known
  split at known
  · next space =>
    obtain rfl := Option.some.inj known
    rw [space]
    rfl
  split at known
  · next enter =>
    obtain rfl := Option.some.inj known
    rw [enter]
    rfl
  split at known
  · next backspace =>
    obtain rfl := Option.some.inj known
    rw [backspace]
    rfl
  split at known
  · obtain rfl := Option.some.inj known
    rfl
  · cases known

/-- The note on what went wrong while a key was decided. -/
def failureNote (name : Text) (fault : Fault) : Note Unit :=
  .of "pair-handlers"
    (Text.ofString "Decision for key " ++ name.quoted ++
      Text.ofString " failed, passing it through:") [fault.asThrown]

/-- The notes on a key can be taken if that on what went wrong can be, if anything did. -/
theorem Verdict.notes_taken_iff (verdict : Verdict) (ctx : Context) (filter : TopicFilter) :
    (∀ note ∈ verdict.notes ctx, note.IsTakenBy filter) ↔
      ∀ fault, verdict.fault = some fault →
        (failureNote verdict.record.key fault).IsTakenBy filter := by
  unfold notes
  cases outcome : verdict.fault with
  | none =>
    refine iff_of_true (fun note member => ?_) fun fault fails => by cases fails
    rw [List.mem_singleton.mp member]
    exact Note.isTakenBy_of_message _ _ _
  | some cause =>
    show (∀ note ∈ [_, failureNote verdict.record.key cause], note.IsTakenBy filter) ↔ _
    rw [List.forall_mem_cons, List.forall_mem_singleton]
    constructor
    · rintro ⟨-, taken⟩ fault fails
      obtain rfl := Option.some.inj fails
      exact taken
    · intro taken
      exact ⟨Note.isTakenBy_of_message _ _ _, taken cause rfl⟩

theorem Verdict.ofQuery_key (name : Text) (kind : KeyKind) (query : Query Outcome) (ctx : Context) :
    (Verdict.ofQuery name kind query ctx).record.key = name := by
  unfold Verdict.ofQuery
  dsimp only
  cases (query.run' ctx {}).1 <;> rfl

theorem Verdict.ofQuery_of_failure (name : Text) (kind : KeyKind) {query : Query Outcome}
    {ctx : Context} {fault : Fault} (fails : query.failure? ctx {} = some fault) :
    let verdict := Verdict.ofQuery name kind query ctx
    verdict.edit = .passThrough name ∧ verdict.fault = some fault ∧
      verdict.record = ⟨name, kind, .passThrough, none, some fault.message⟩ := by
  obtain ⟨after, run⟩ := Query.failure?_eq_some_iff.mp fails
  rw [Verdict.ofQuery, run]
  exact ⟨rfl, rfl, rfl⟩

namespace Session

variable (session : Session) (key : Text) (snapshot : Snapshot) (oracle : Oracle)

/-- Whether a key is looked at by an engine. -/
def attendsTo : Bool :=
  !isUnreliableKey key && session.engine.keystrokes.isEnabledFor snapshot

/-- The context in which keys are decided. -/
def contextOf : Context :=
  .ofSnapshot { snapshot with
    indentUnit := some (snapshot.indentUnit.getD session.engine.keystrokes.indentUnit) } oracle

/-- The verdict on a key with a name and a kind. -/
def verdict (kind : KeyKind) (name : Text) : Verdict :=
  session.engine.rules.index.decide kind name (session.contextOf snapshot oracle)

variable {session key snapshot oracle} {name : Text} {kind : KeyKind}

/-- Notes are taken up to the first one that cannot be. -/
theorem noteEach_eq_ok_iff (notes : List (Note Unit)) :
    (session.noteEach notes).2 = .ok () ↔ ∀ note ∈ notes, note.IsTakenBy session.filter := by
  induction notes generalizing session with
  | nil => simp [noteEach]
  | cons note rest ih =>
    unfold noteEach
    dsimp only
    rw [List.forall_mem_cons, ← Note.failure_eq_none_iff session.log session.filter session.host.clock]
    cases (session.log.note session.filter session.host.clock note).failure with
    | none => simpa using ih
    | some cause => simp

theorem handleKey_of_not_attended (off : session.attendsTo key snapshot = false) :
    session.handleKey key snapshot oracle = (session, .ok (.passThrough key)) := by
  have untouched : isUnreliableKey key || !session.engine.keystrokes.isEnabledFor snapshot := by
    rw [attendsTo, Bool.and_eq_false_iff, Bool.not_eq_false'] at off
    simpa using off
  have response : session.engine.handleKey key snapshot oracle = .ok ⟨.passThrough key, none⟩ :=
    if_pos untouched
  rw [handleKey, response]
  rfl

theorem engine_handleKey_of_attended (on : session.attendsTo key snapshot = true) :
    session.engine.handleKey key snapshot oracle =
      match normalKey? key with
      | none => .error (.inheritedName (inherited? key == some .function))
      | some name =>
        match keyKind? name with
        | none => .ok ⟨.passThrough key, none⟩
        | some kind =>
          let verdict := session.verdict snapshot oracle kind name
          .ok ⟨verdict.edit, some (session.contextOf snapshot oracle, verdict)⟩ := by
  have touched : ¬ (isUnreliableKey key || !session.engine.keystrokes.isEnabledFor snapshot) := by
    rw [attendsTo, Bool.and_eq_true, Bool.not_eq_true'] at on
    simpa using on
  exact if_neg touched

theorem engine_handleKey_of_decided (oracle : Oracle) (on : session.attendsTo key snapshot = true)
    (named : normalKey? key = some name) (known : keyKind? name = some kind) :
    session.engine.handleKey key snapshot oracle =
      let verdict := session.verdict snapshot oracle kind name
      .ok ⟨verdict.edit, some (session.contextOf snapshot oracle, verdict)⟩ := by
  rw [engine_handleKey_of_attended on, named]
  dsimp only
  rw [known]

theorem handleKey_of_nameless (on : session.attendsTo key snapshot = true)
    (nameless : inherited? key ≠ none) :
    session.handleKey key snapshot oracle =
      (session, .error (.inheritedName (inherited? key == some .function))) := by
  rw [handleKey, engine_handleKey_of_attended on, normalKey?_eq_none_iff.mpr nameless]

theorem handleKey_of_kindless (on : session.attendsTo key snapshot = true)
    (named : normalKey? key = some name) (kindless : keyKind? name = none) :
    session.handleKey key snapshot oracle = (session, .ok (.passThrough key)) := by
  rw [handleKey, engine_handleKey_of_attended on, named]
  dsimp only
  rw [kindless]
  rfl

/-- A key that is decided: its verdict is recorded after the notes. A note that cannot be taken is the
last thing that happens. -/
theorem handleKey_decided (oracle : Oracle) (on : session.attendsTo key snapshot = true)
    (named : normalKey? key = some name) (known : keyKind? name = some kind) :
    let verdict := session.verdict snapshot oracle kind name
    let taken := ∀ fault, verdict.fault = some fault → (failureNote name fault).IsTakenBy session.filter
    (taken → ∃ log : Log, session.handleKey key snapshot oracle =
        ({ session with log := (log.recordDecision session.host.clock verdict.record).1 },
          .ok verdict.edit)) ∧
      (¬ taken → ∃ log cause, session.handleKey key snapshot oracle =
        ({ session with log := log }, .error (.thrown cause))) := by
  intro verdict taken
  let response : Response := ⟨verdict.edit, some (session.contextOf snapshot oracle, verdict)⟩
  have responds : session.engine.handleKey key snapshot oracle = .ok response :=
    engine_handleKey_of_decided oracle on named known
  have itsKey : verdict.record.key = name := by
    show (session.engine.rules.index.decide kind name _).record.key = name
    rw [RuleIndex.decide_eq_ofQuery known]
    exact Verdict.ofQuery_key _ _ _ _
  have outcome_iff : (session.noteEach response.notes).2 = .ok () ↔ taken := by
    show (session.noteEach (verdict.notes (session.contextOf snapshot oracle))).2 = .ok () ↔ taken
    rw [noteEach_eq_ok_iff, Verdict.notes_taken_iff, itsKey]
  obtain ⟨log, logged⟩ := session.noteEach_eq response.notes
  cases run : session.noteEach response.notes with
  | mk last outcome =>
    rw [run] at logged outcome_iff
    obtain rfl : last = { session with log := log } := logged
    cases outcome with
    | ok _ =>
      refine ⟨fun _ => ⟨log, ?_⟩, fun fails => absurd (outcome_iff.mp rfl) fails⟩
      simp only [handleKey, responds, run]
      rfl
    | error cause =>
      refine ⟨fun isTaken => ?_, fun _ => ⟨log, cause, ?_⟩⟩
      · cases outcome_iff.mpr isTaken
      · simp only [handleKey, responds, run]

theorem handleKey_returns_of_decided (on : session.attendsTo key snapshot = true)
    (named : normalKey? key = some name) (known : keyKind? name = some kind) :
    (∃ edit, (session.handleKey key snapshot oracle).2 = .ok edit) ↔
      ∀ fault, (session.verdict snapshot oracle kind name).fault = some fault →
        (failureNote name fault).IsTakenBy session.filter := by
  obtain ⟨returns, throws⟩ := handleKey_decided oracle on named known
  constructor
  · rintro ⟨edit, returned⟩
    refine Classical.byContradiction fun notTaken => ?_
    obtain ⟨log, cause, threw⟩ := throws notTaken
    rw [threw] at returned
    cases returned
  · intro taken
    obtain ⟨log, handled⟩ := returns taken
    exact ⟨_, congrArg Prod.snd handled⟩

/-- **When there is something to do for a key.** There is exactly if it is not looked at, or has a name,
and what goes wrong with its decision, if anything does, can be noted down. Where a part of the decision
fails, a condition of a rule or a question to the host, the key is let through under its name and the
record says what went wrong. -/
theorem handleKey_returns_iff (session : Session) (key : Text) (snapshot : Snapshot)
    (oracle : Oracle) :
    ((∃ edit, (session.handleKey key snapshot oracle).2 = .ok edit) ↔
      (session.attendsTo key snapshot = true → inherited? key = none ∧
        ∀ name kind fault, normalKey? key = some name → keyKind? name = some kind →
          (session.verdict snapshot oracle kind name).fault = some fault →
            (failureNote name fault).IsTakenBy session.filter)) ∧
      ∀ name kind, session.attendsTo key snapshot = true → normalKey? key = some name →
        keyKind? name = some kind →
          ∀ (β : Type) (part : Query β) (start : Memo) (fault : Fault),
            Query.Reaches (session.contextOf snapshot oracle) part start
              (session.engine.rules.index.decision kind name) {} →
            part.failure? (session.contextOf snapshot oracle) start = some fault →
            (failureNote name fault).IsTakenBy session.filter →
            ∃ log : Log, session.handleKey key snapshot oracle =
              ({ session with
                  log := (log.recordDecision session.host.clock
                    ⟨name, kind, .passThrough, none, some fault.message⟩).1 },
                .ok (.passThrough name)) := by
  constructor
  · by_cases off : session.attendsTo key snapshot = false
    · rw [handleKey_of_not_attended off]
      exact iff_of_true ⟨_, rfl⟩ fun on => absurd on (Bool.eq_false_iff.mp off)
    have on : session.attendsTo key snapshot = true := eq_true_of_ne_false off
    rw [forall_prop_of_true on]
    cases named : normalKey? key with
    | none =>
      have nameless := normalKey?_eq_none_iff.mp named
      rw [handleKey_of_nameless on nameless]
      refine iff_of_false ?_ fun all => nameless all.1
      rintro ⟨_, returns⟩
      cases returns
    | some name =>
      have hasName : inherited? key = none := Classical.byContradiction fun nameless => by
        rw [normalKey?_eq_none_iff.mpr nameless] at named
        cases named
      rw [and_iff_right hasName]
      cases known : keyKind? name with
      | none =>
        rw [handleKey_of_kindless on named known]
        refine iff_of_true ⟨_, rfl⟩ fun other kind fault same isKnown _ => ?_
        obtain rfl := Option.some.inj same
        rw [known] at isKnown
        cases isKnown
      | some kind =>
        rw [handleKey_returns_of_decided on named known]
        constructor
        · intro taken other otherKind fault same isKnown
          obtain rfl := Option.some.inj same
          obtain rfl := Option.some.inj (known.symm.trans isKnown)
          exact taken fault
        · intro taken fault
          exact taken name kind fault rfl known
  · intro name kind on named known β part start fault reached fails taken
    obtain ⟨edit, itsFault, record⟩ :=
      Verdict.ofQuery_of_failure name kind (reached.failure?_eq fails)
    rw [← RuleIndex.decide_eq_ofQuery known] at edit itsFault record
    obtain ⟨returns, -⟩ := handleKey_decided oracle on named known
    obtain ⟨log, handled⟩ := returns fun cause same => by
      obtain rfl := Option.some.inj (itsFault.symm.trans same)
      exact taken
    refine ⟨log, ?_⟩
    rw [handled, verdict, edit, record]

/-- A condition that throws lets its key through, and the record says what it has thrown. -/
theorem handleKey_returns_of_throwing_condition :
    let broken : HostFunction := .throwing (.error "Error" "broken")
    let defaults : Data HostFunction :=
      .record [("(", .record [("closing", .text ")"), ("when", .function broken)])]
    let snapshot : Snapshot := ⟨"a", ⟨0, 1⟩, "text", .insert, none⟩
    ∃ engine, Engine.start defaults .null = .ok engine ∧
      let session := start (Host.start [] []) engine ⟨none, none⟩ .unspecified
      ∃ log : Log, session.handleKey "(" snapshot .silent =
        ({ session with
            log := (log.recordDecision session.host.clock
              ⟨"(", .printable, .passThrough, none, some "broken"⟩).1 },
          .ok (.passThrough "(")) := by
  intro broken defaults snapshot
  let host := Host.start [] []
  have throws : ((Engine.start defaults .null).toOption.map fun engine =>
      let session := start host engine ⟨none, none⟩ .unspecified
      (session.attendsTo "(" snapshot, (engine.rules.index.rulesFor "(").map fun rule =>
        (rule.applies.failure? (session.contextOf snapshot .silent) {}).map Fault.message)) =
        some (true, [some (Text.ofString "broken")]) := by
    decide +kernel
  obtain ⟨engine, starts, runs⟩ := Option.map_eq_some_iff.mp throws
  obtain ⟨on, runs⟩ := Prod.mk.inj runs
  obtain ⟨rule, only, run⟩ := List.map_eq_singleton_iff.mp runs
  obtain ⟨fault, fails, message⟩ := Option.map_eq_some_iff.mp run
  refine ⟨engine, eq_ok_of_toOption starts, ?_⟩
  intro session
  have reached : Query.Reaches (session.contextOf snapshot .silent) rule.applies {}
      (session.engine.rules.index.decision .printable "(") {} := by
    show Query.Reaches _ _ _ (Rule.allActive (engine.rules.index.rulesFor "(") none >>= _) _
    rw [only]
    exact .first (allActive_reaches [] rule [] none rfl)
  rw [← message]
  exact (handleKey_returns_iff session "(" snapshot .silent).2 "(" .printable on (by decide +kernel)
    (by decide +kernel) Bool rule.applies {} fault reached fails fun kept => by cases kept

/-- A name that every record has is no key, and nothing catches what comes of it. Nor does anything catch
what comes of the note on a thrown value without a text, where notes are kept. -/
theorem handleKey_throws_of_inherited_name :
    let textless : Thrown := .record [("count", .integer "5"), ("toString", .null)]
    let defaults : Data HostFunction :=
      .record [("(", .record [("closing", .text ")"), ("when", .function (.throwing textless))])]
    let snapshot : Snapshot := ⟨"a", ⟨0, 1⟩, "text", .insert, none⟩
    ∃ engine, Engine.start defaults .null = .ok engine ∧
      let session := (start (Host.start [] []) engine ⟨none, none⟩ .development).load.1
      (session.handleKey "constructor" snapshot .silent).2 = .error (.inheritedName true) ∧
        ∀ edit, (session.handleKey "(" snapshot .silent).2 ≠ .ok edit := by
  intro textless defaults snapshot
  let host := Host.start [] []
  have throws : ((Engine.start defaults .null).toOption.map fun engine =>
      let session := (start host engine ⟨none, none⟩ .development).load.1
      (session.attendsTo "constructor" snapshot,
        (session.handleKey "(" snapshot .silent).2.toOption)) = some (true, none) := by
    decide +kernel
  obtain ⟨engine, starts, ends⟩ := Option.map_eq_some_iff.mp throws
  obtain ⟨on, nothing⟩ := Prod.mk.inj ends
  refine ⟨engine, eq_ok_of_toOption starts, ?_, fun edit returns => ?_⟩
  · have member : inherited? (Text.ofString "constructor") = some .function := by decide +kernel
    rw [handleKey_of_nameless on (by simp [member]), member]
    rfl
  · rw [returns] at nothing
    cases nothing

end Session

end Pairing
