/-
  RuleScript.Run.Logbook
  ──────────────────────
  **Where log entries go.**

  The program that runs a script chooses what its log entries become: calls of a
  listener, events of its own tracing, or nothing.
-/
import RuleScript.Run.Machine

namespace RuleScript

/-- Where log entries go. -/
inductive Logbook where
  | listener
  | events
  | nowhere
  deriving Repr, DecidableEq

/-- A log entry as it is delivered; events have a level. -/
structure Delivery where
  line : Nat
  message : String
  level : Option String
  deriving Repr, DecidableEq

/-- What the entries of a log become. -/
def Logbook.deliver : Logbook → List LogEntry → List Delivery
  | .listener, log => log.map fun entry => ⟨entry.line, entry.message, none⟩
  | .events, log => log.map fun entry => ⟨entry.line, "Log entry: " ++ entry.message, some "INFO"⟩
  | .nowhere, _ => []

end RuleScript
