/-
  RuleScript.CommandLine
  ──────────────────────
  **Running one script against a sample request and response.**

  The script comes from standard input and the address of the request from the
  first argument.  Where the script succeeds, both values are shown as it has left
  them; where it fails, the line of the failed statement is.
-/
import RuleScript.Regex.Replace
import RuleScript.Report
import RuleScript.Run.Machine
import RuleScript.Web.Message

namespace RuleScript.CommandLine

/-- What the program writes, and its exit code. -/
structure Reply where
  exit : Nat
  output : String
  errors : String
  deriving Repr, DecidableEq

/-- The address of the request where none is given. -/
def defaultUrl : String := "http://localhost/"

/-- What the script runs against. -/
def environment (args : List String) : Environment :=
  ((Environment.empty Web.catalog).lend "request"
    (Web.request "GET" (args.head?.getD defaultUrl))).lend "response" Web.emptyResponse

/-- A log entry as it is written. -/
def logLine (entry : LogEntry) : String := s!"log (line {entry.line}): {entry.message}\n"

/-- Line number `line` of a script whose comments are left out. -/
def lineText (script : List UInt8) (line : Nat) : String :=
  let lines := Text.lines (Utf8.decode (Script.uncomment script))
  String.ofList ((lines[line - 1]?).getD [])

/-- An error as it is written. -/
def errorText (script : List UInt8) (e : ScriptError) : String :=
  s!"ERROR AT LINE {e.line}:\n" ++ lineText script e.line ++ "\n"
    ++ s!"{e.fault.message} [{e.fault.errorClass.code}]\n"

/-- The value of a root as it is written. -/
def rootText (env : Environment) (name : String) : String :=
  (env.host? name).elim "" fun host => Report.render host ++ "\n"

/-- What the program writes for its arguments and standard input. -/
def reply (args : List String) (script : List UInt8) : Reply :=
  let result := run (.plain Regex.engine) (environment args) script
  let log := String.join (result.state.log.map logLine)
  match result.error with
  | none =>
    ⟨0, rootText result.state.env "request" ++ rootText result.state.env "response", log⟩
  | some e => ⟨1, "", log ++ errorText script e⟩

end RuleScript.CommandLine
