import Pairing.DefaultRules
import Pairing.Engine.Session
import Pairing.Oracle.Scan
import Pairing.Oracle.Table
import Pairing.RulesFile.Session
import Pairing.Decision.Unchecked
import Pairing.HostFunction.Asking
import Pairing.Proofs.Decision.Faults
import Pairing.Proofs.Decision.LineEdits
import Pairing.Proofs.RuleIndex.Representation
import Pairing.Proofs.RuleStore.Texts
import Pairing.Proofs.Typing.Balance
import Pairing.Proofs.Typing.Nested
import Pairing.Proofs.Decision.Turn
import Pairing.Proofs.Decision.Writing
import Pairing.Proofs.Engine.CurrentFile
import Pairing.Proofs.Engine.FileRuns
import Pairing.Proofs.Engine.Overlap
import Pairing.Proofs.Engine.Restart
import Pairing.Proofs.Engine.Loading
import Pairing.Proofs.Keystroke.Handled
import Pairing.Proofs.Definition.Lossless
import Pairing.Proofs.Definition.Replaced
import Pairing.Proofs.Definition.Places
import Pairing.Proofs.Condition.Grammar
import Pairing.Proofs.Query.Answers
import Pairing.Proofs.Condition.Meaning
import Pairing.Proofs.Query.Inquiries
import Pairing.Proofs.Definition.Declarative
import Pairing.Proofs.Definition.Inserted
import Pairing.Proofs.Decision.Deciding
import Pairing.Proofs.Decision.Irrelevant
import Pairing.Proofs.Decision.Completed
import Pairing.Proofs.Definition.Shorthand
import Pairing.Proofs.Definition.Opened
import Pairing.Proofs.Typing.RoundTrip
import Pairing.Proofs.Decision.Escaped
import Pairing.Proofs.Typing.Undone
import Pairing.Proofs.Typing.LaidOut
import Pairing.Proofs.Position.Inverse
import Pairing.Proofs.Scan.Rounds
import Pairing.Proofs.Decision.CodePoints
import Pairing.Proofs.RulesFile.Plain
import Pairing.Proofs.Settings.Shared
import Pairing.Proofs.RulesFile.Watching
import Pairing.Proofs.Language.Converse
import Pairing.Proofs.Keystroke.Bound
import Pairing.Proofs.Log.Keys
import Pairing.Proofs.Typing.Apostrophe
