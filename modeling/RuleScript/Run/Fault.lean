/-
  RuleScript.Run.Fault
  ────────────────────
  **Why a script stops.**

  A fault says what went wrong, and a script error adds the line of the statement
  that failed.  Every fault belongs to one of five classes; a failed path or
  comparison inside a statement keeps its own class.
-/
import RuleScript.Comparison
import RuleScript.Host.Path
import RuleScript.Script.Statement

namespace RuleScript

/-! ## §1. Classes. -/

/-- The classes of errors. -/
inductive ErrorClass where
  /-- A missing operand, blocks that do not match, or a word that starts no statement. -/
  | grammar
  /-- A path that leads nowhere. -/
  | resolution
  /-- A text that does not suit the value it is meant for. -/
  | coercion
  /-- An unknown operator, or a bad pattern or block of addresses. -/
  | validator
  /-- An absent value whose type has no empty one. -/
  | construction
  deriving Repr, DecidableEq

/-- The code of a class. -/
def ErrorClass.code : ErrorClass → String
  | .grammar => "rule-syntax-error"
  | .resolution => "rule-resolution-error"
  | .coercion => "rule-coercion-error"
  | .validator => "rule-validator-error"
  | .construction => "rule-construction-error"

/-- The class of a failed path. -/
def PathError.errorClass : PathError → ErrorClass
  | .notInteger _ _ => .coercion
  | .notAssignable _ _ => .coercion
  | .notConstructible _ => .construction
  | _ => .resolution

/-- The class of a failed comparison. -/
def ComparisonError.errorClass : ComparisonError → ErrorClass
  | .integerWithText => .coercion
  | _ => .validator

/-! ## §2. Faults. -/

/-- Why a statement failed. -/
inductive Fault where
  | missingOperand (keyword : String) (operand : Script.Operand)
  | unmatchedClose
  | openBlocks (count : Nat)
  | alreadyDeclared (name : String)
  | unexpectedItem (word : String)
  | unknownOperator (operator path : String)
  | expanding (word keyword : String) (cause : PathError)
  | comparing (keyword : String) (cause : ComparisonError)
  | modifying (path text : String) (cause : PathError)
  | unsetting (path : String) (cause : PathError)
  | reading (path : String) (cause : PathError)
  deriving Repr, DecidableEq

/-- The class of a fault. -/
def Fault.errorClass : Fault → ErrorClass
  | .missingOperand _ _ => .grammar
  | .unmatchedClose => .grammar
  | .openBlocks _ => .grammar
  | .alreadyDeclared _ => .grammar
  | .unexpectedItem _ => .grammar
  | .unknownOperator _ _ => .validator
  | .expanding _ _ cause => cause.errorClass
  | .comparing _ cause => cause.errorClass
  | .modifying _ _ cause => cause.errorClass
  | .unsetting _ cause => cause.errorClass
  | .reading _ cause => cause.errorClass

/-- The wording of a fault. -/
def Fault.message : Fault → String
  | .missingOperand keyword operand =>
    s!"expected {operand.what} as {operand.ordinal} parameter to '{keyword}'"
  | .unmatchedClose => "unexpected '\x7d' without matching '\x7b'"
  | .openBlocks count => s!"{count} block(s) left open at end of script"
  | .alreadyDeclared name => s!"variable resource with the name '{name}' already exists"
  | .unexpectedItem word => s!"unexpected item in script logic. '{word}' does not make sense"
  | .unknownOperator operator path =>
    s!"unknown operator '{operator}' after variable '{path}'"
  | .expanding word keyword cause =>
    s!"error parsing value '{word}' of '{keyword}': {cause.message}"
  | .comparing keyword cause => s!"failed to validate '{keyword}': {cause.message}"
  | .modifying path text cause => s!"error modifying '{path}' to '{text}': {cause.message}"
  | .unsetting path cause => s!"error unsetting '{path}': {cause.message}"
  | .reading path cause => s!"error reading '{path}': {cause.message}"

/-! ## §3. Script errors. -/

/-- A fault and the line of the statement that failed. -/
structure ScriptError where
  fault : Fault
  line : Nat
  deriving Repr, DecidableEq

/-- The full text of an error. -/
def ScriptError.display (e : ScriptError) : String :=
  s!"{e.fault.message} at line:{e.line} ({e.fault.errorClass.code})"

end RuleScript
