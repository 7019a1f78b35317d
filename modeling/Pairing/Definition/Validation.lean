/-
**Checking definitions before they are used.**

A host may hand over definitions that were never read from configuration data, so their delimiters, keys
and kinds are checked once more before they become rules.

* `Definitions.problemsOf` — the problems of one definition.
* `Definitions.issues?` — the issues of all definitions, or none where a definition is missing and
  cannot be looked into.
* `RuleIndex.compile` — the rules of definitions without issues.
-/

import Pairing.Definition
import Pairing.Definition.Issue
import Pairing.Rule.Unchecked

namespace Pairing

namespace Definitions

/-- A problem, where it arises. -/
def problemIf (arises : Bool) (problem : Problem) : List Problem :=
  if arises then [problem] else []

/-- Whether a value has the shape of a condition: a function, a record or a list. -/
def hasConditionShape : Data HostFunction → Bool
  | .function _ | .list _ => true
  | value => value.isRecord

/-- The text of a value that is a text and not empty. -/
def nonEmptyText? (value : Data HostFunction) : Option Text :=
  match value with
  | .text (unit :: rest) => some (unit :: rest)
  | _ => none

/-- The problems of the opening of a definition. -/
def openingProblems (key : Text) (opening : Data HostFunction) : List Problem :=
  if opening.isMissing then []
  else
    match nonEmptyText? opening with
    | none => [.unusableOpening]
    | some t => problemIf (!t.contains key) (.openingWithoutKey key)

/-- The problem of a closing that the opening does not lead to: it starts with a character that does
not occur in an opening of several units. -/
def closingProblems (key : Text) (opening closing : Data HostFunction) : List Problem :=
  let opens := (nonEmptyText? opening).getD key
  match nonEmptyText? closing with
  | none => []
  | some t =>
    problemIf (1 < opens.length && opens != t && !opens.contains t.firstCluster)
      (.foreignClosing opens)

/-- Whether the priority of a definition can be used. -/
def isUsablePriority : Data HostFunction → Bool
  | .missing => true
  | .number value => value.isFinite
  | _ => false

/-- Whether the condition of an action can be used. -/
def isUsableFlag (flag : Data HostFunction) : Bool :=
  match flag with
  | .missing | .bool _ => true
  | _ => hasConditionShape flag

/-- The problems of a definition under a key. -/
def problemsOf (key : Text) (entry : Data HostFunction) : List Problem :=
  match entry with
  | .text closing => problemIf closing.isEmpty .emptyClosing
  | _ =>
    let closing := entry.field "closing"
    let opening := entry.field "opening"
    let languages := entry.field "languages"
    let cmdline := entry.field "cmdline"
    let condition := entry.field "when"
    problemIf (nonEmptyText? closing).isNone .unusableClosing ++
      openingProblems key opening ++
      closingProblems key opening closing ++
      problemIf (!isUsablePriority (entry.field "priority")) .unusablePriority ++
      problemIf (!languages.isMissing && languages.texts?.isNone) .languagesKind ++
      problemIf (match cmdline with | .missing | .bool _ => false | _ => true) .cmdlineKind ++
      problemIf (!condition.isMissing && !hasConditionShape condition) .conditionKind ++
      Action.all.flatMap fun action =>
        problemIf (!isUsableFlag (entry.field action.name)) (.flagKind action)

/-- The issues of the definitions under a key. -/
def issuesUnder (key : Text) (value : Data HostFunction) : List Issue :=
  problemIf (!key.isSingleCluster) .longKey |>.map (⟨key, 0, ·⟩) |>.append
    (value.asList.mapIdx fun index entry => (problemsOf key entry).map (⟨key, index, ·⟩)).flatten

/-- Whether all definitions can be looked into. -/
def areReadable (definitions : Definitions) : Bool :=
  definitions.all fun (_, value) => value.asList.all fun entry => !entry.isNullish

/-- The issues of definitions, or none where a definition is missing and cannot be looked into. -/
def issues? (definitions : Definitions) : Option (List Issue) :=
  if definitions.areReadable then
    some (definitions.flatMap fun (key, value) => issuesUnder key value)
  else none

/-- The rules of definitions, or why the first one that cannot be built has none. -/
def rules (definitions : Definitions) : Except Fault (List Rule) :=
  (definitions.entries.mapIdx fun order (key, entry) => Rule.ofEntry key entry order).mapM id

end Definitions

/-- The index of definitions without issues. -/
def RuleIndex.compile (definitions : Definitions) : Except RuleConfigFault RuleIndex :=
  match definitions.issues? with
  | none => .error (.unreadable (.missingValue true "closing"))
  | some [] =>
    match definitions.rules with
    | .ok rules => .ok (RuleIndex.ofRules rules)
    | .error fault => .error (.unreadable fault)
  | some issues => .error (.issues issues)

end Pairing
