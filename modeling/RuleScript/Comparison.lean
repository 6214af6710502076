/-
  RuleScript.Comparison
  ─────────────────────
  **The operators of conditions.**

  Two integers are compared as numbers, two other texts as texts; an integer
  never meets a text.  Texts have two operators of their own, for patterns and
  for blocks of addresses, which integers never reach.
-/
import RuleScript.Engine
import RuleScript.Net.Block

namespace RuleScript

/-! ## §1. What can go wrong. -/

/-- Why a comparison has no answer. -/
inductive ComparisonError where
  | integerWithText
  | unknownForIntegers (operator : String)
  | unknownForTexts (operator : String)
  /-- The engine refuses the pattern, and says why. -/
  | invalidPattern (pattern reason : String)
  | invalidBlock (block : String)
  deriving Repr, DecidableEq

/-- The wording of a failed comparison. -/
def ComparisonError.message : ComparisonError → String
  | .integerWithText => "cannot compare string with number"
  | .unknownForIntegers operator => s!"unknown number validator: {operator}"
  | .unknownForTexts operator => s!"unknown string validator: {operator}"
  | .invalidPattern pattern reason => s!"invalid regular expression '{pattern}': {reason}"
  | .invalidBlock block => s!"invalid network specification '{block}'"

/-! ## §2. The operators. -/

namespace Comparison

/-- Compares two integers. -/
def integers (left : Int64) (operator : String) (right : Int64) :
    Except ComparisonError Bool :=
  if operator = "==" then .ok (left == right)
  else if operator = "!=" then .ok (left != right)
  else if operator = "<=" then .ok (decide (left ≤ right))
  else if operator = ">=" then .ok (decide (right ≤ left))
  else .error (.unknownForIntegers operator)

/-- The regular expression that a text spells. -/
def pattern (engine : Engine) (text : String) : Except ComparisonError Expression :=
  (engine.compile text).mapError (.invalidPattern text)

/-- The address that a text names lies in a block.  The block is looked at
first; a text that names no address lies in none. -/
def inBlock (text block : String) : Except ComparisonError Bool :=
  match Net.Block.ofText? block with
  | none => .error (.invalidBlock block)
  | some block => .ok ((Net.Address.ofText? text).any block.contains)

/-- Compares two texts that are no integers. -/
def texts (engine : Engine) (left operator right : String) : Except ComparisonError Bool :=
  if operator = "==" then .ok (left == right)
  else if operator = "!=" then .ok (left != right)
  else if operator = "match_regex" ∨ operator = "regex" then
    (pattern engine right).map (·.occursIn left)
  else if operator = "match_net" then inBlock left right
  else .error (.unknownForTexts operator)

/-- Compares two operands. -/
def holds (engine : Engine) (left operator right : String) : Except ComparisonError Bool :=
  match Numeral.integer? left, Numeral.integer? right with
  | some left, some right => integers left operator right
  | none, none => texts engine left operator right
  | _, _ => .error .integerWithText

end Comparison

end RuleScript
