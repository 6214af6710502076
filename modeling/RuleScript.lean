import RuleScript.Host.Member
import RuleScript.Main
import RuleScript.Run.Logbook
import RuleScript.Proofs.Environment.Typing
import RuleScript.Proofs.Environment.Untouched
import RuleScript.Proofs.Host.FailedWrite
import RuleScript.Proofs.Host.Removal
import RuleScript.Proofs.Host.WriteRead
import RuleScript.Proofs.Run.Failure
import RuleScript.Proofs.Run.LineEnds
import RuleScript.Proofs.Run.Stability
import RuleScript.Proofs.Run.Unmentioned
import RuleScript.Proofs.Run.Variables
import RuleScript.Proofs.Structured.Execution
import RuleScript.Proofs.Wordwise.Skipping
import RuleScript.Proofs.Host.WriteBack
import RuleScript.Proofs.Host.TwoWrites
import RuleScript.Proofs.Host.Respelled
import RuleScript.Proofs.Host.Clearing
import RuleScript.Proofs.Script.Lines
import RuleScript.Proofs.Script.Written
import RuleScript.Proofs.Environment.Expansion
import RuleScript.Proofs.Run.Unmatched
import RuleScript.Proofs.Script.Characters
import RuleScript.Proofs.Run.Faults
import RuleScript.Proofs.Run.ErrorLine
import RuleScript.Proofs.Run.LogExpansion
import RuleScript.Proofs.Wordwise.Nesting
import RuleScript.Proofs.Comparison.Laws
import RuleScript.Proofs.Comparison.Network
import RuleScript.Proofs.Web.Rendering
