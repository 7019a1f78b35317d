/-
**What an engine tells its log.**

* `RulesText.notes`, `RuleStore.loadNotes`, `RuleStore.textNotes`, `RuleStore.resetNotes` — notes on a
  configuration and what came of it.
* `LoadOutcome.engineNotes`, `FileRead.notes`, `RuleStore.fileNotes` — notes on what an engine did.
* `Response.notes` — notes on a key.
-/

import Pairing.Engine
import Pairing.Log.Note

namespace Pairing

/-- An error of the host, as a log shows it. -/
def hostError (message : Text) : Data Unit :=
  .error "Error" message

/-- The note on issues that were found. -/
def issuesNote (issues : List Issue) : Note Unit :=
  .of "rules"
    (Text.ofString "Rule validation found " ++ Text.ofNat issues.length ++ Text.ofString " issue(s)") []

/-- The notes on a text of rules. -/
def RulesText.notes : RulesText → List (Note Unit)
  | .blank => []
  | .holds reading =>
    if reading.checkingIssues.isEmpty then [] else [issuesNote reading.checkingIssues]
  | .malformed fault =>
    [.of "rules" "JSONC parsing error:"
      [.error "SyntaxError" (Text.ofString "JSON5: " ++ fault.message)]]

/-- The notes on what a file turned out to hold. -/
def FileText.notes : FileText → List (Note Unit)
  | .ok text => text.notes
  | .error _ => []

namespace RuleStore

/-- The notes on definitions, by what came of them. -/
def loadNotes (store : RuleStore) : LoadOutcome → List (Note Unit)
  | .loaded rules =>
    [.of "core"
        (Text.ofString "Compiled " ++ Text.ofNat rules ++ Text.ofString " rules under " ++
          Text.ofNat store.index.byKey.length ++ Text.ofString " keys") [],
      .of "rule-service" (Text.ofString "Loaded " ++ Text.ofNat rules ++ Text.ofString " rules") []]
  | .invalid issues =>
    [issuesNote issues,
      .of "rule-service" "Rejected rule definitions:" [.text (RuleConfigFault.issues issues).message]]
  | .rejected reason => [.of "rule-service" "Rejected rules:" [.text reason]]
  | .noneToReset => [.of "rule-service" noneToResetMessage []]
  | .unreadable _ => []

/-- The notes on a text of rules, by what came of it. -/
def textNotes (store : RuleStore) (t : Text) (outcome : LoadOutcome) : List (Note Unit) :=
  (RulesText.ofText t).notes ++ store.loadNotes outcome

/-- The notes on going back to the last configuration that could be used. -/
def resetNotes (store : RuleStore) : LoadOutcome → List (Note Unit)
  | .noneToReset => store.loadNotes .noneToReset
  | outcome =>
    .of "rule-service" "Resetting to last valid rule configuration" [] :: store.loadNotes outcome

end RuleStore

/-- The note on settings that were taken from the store. -/
def settingsLoadedNote : Note Unit :=
  .of "settings-service" "Settings loaded successfully" []

/-- The notes on settings that were changed and put into the store. -/
def settingsUpdatedNotes : List (Note Unit) :=
  [.of "settings-service" "Settings saved successfully" [],
    .of "settings-service" "Settings updated and saved" []]

/-- The note on an engine that took settings and rules from the store. -/
def LoadOutcome.engineNotes (outcome : LoadOutcome) : List (Note Unit) :=
  match outcome, outcome.error? with
  | .unreadable _, _ => []
  | _, some reason =>
    [.of "engine" (Text.ofString "Engine loaded with rule errors: " ++ reason) []]
  | _, none => [.of "engine" "Engine loaded successfully" []]

/-- The note on an engine that takes no rules from files any more. -/
def unloadedNote : Note Unit :=
  .of "engine" "Engine unloaded" []

/-! ### Files -/

/-- The note on a failed attempt to read a file. -/
def FileRead.failureNote (read : FileRead) (reason : Text) : Note Unit :=
  .of "rules-file-service"
    (Text.ofString "Error reading rules file (attempt " ++ Text.ofNat read.attempt ++
      Text.ofString "/" ++ Text.ofInt read.limit ++ Text.ofString "):") [hostError reason]

/-- The notes on an attempt to read a file, by what the host answered to it. -/
def FileRead.notes (read : FileRead) (answer : Except Text Text) : List (Note Unit) :=
  match read.proceed answer, answer with
  | .finished text, .ok _ => text.notes
  | _, .ok _ => []
  | _, .error reason => if read.hasAttempt then [read.failureNote reason] else []

/-- The notes on a file that was read. -/
def RuleStore.fileNotes (store : RuleStore) (path : Text) : FileOutcome → List (Note Unit)
  | .replaced path => [.of "engine" (replacedMessage path) []]
  | .applied (.rejected reason) =>
    .of "engine" (Text.ofString "Rules file " ++ path ++ Text.ofString " rejected: " ++ reason) [] ::
      store.loadNotes (.rejected reason)
  | .applied outcome => store.loadNotes outcome

/-- The note on a file that cannot be watched. -/
def unwatchedNote (failure : Text) : Note Unit :=
  .of "rules-file-service" failure []

/-- The note on a watcher that failed. -/
def watcherFailedNote (message : Text) : Note Unit :=
  .of "rules-file-service" "Rules file watcher failed:" [hostError message]

/-- The note on a change that settled. -/
def settledNote : Note Unit :=
  .of "rules-file-service" "Rules file changed, reloading..." []

/-! ### Keys -/

/-- The notes on a key that was decided. -/
def Verdict.notes (verdict : Verdict) (ctx : Context) : List (Note Unit) :=
  let handling : Note Unit :=
    .of "keystroke-service"
      (Text.ofString "Handling " ++ verdict.record.kind.name ++ Text.ofString " key " ++
        verdict.record.key.quoted ++ Text.ofString " at " ++ Text.ofInt ctx.line ++
        Text.ofString ":" ++ Text.ofNat ctx.column) []
  match verdict.fault with
  | none => [handling]
  | some fault =>
    [handling,
      .of "pair-handlers"
        (Text.ofString "Decision for key " ++ verdict.record.key.quoted ++
          Text.ofString " failed, passing it through:") [fault.asThrown]]

/-- The notes on a key. -/
def Response.notes (response : Response) : List (Note Unit) :=
  match response.decided with
  | none => []
  | some (ctx, verdict) => verdict.notes ctx

end Pairing
