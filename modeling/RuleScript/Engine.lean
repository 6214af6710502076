/-
  RuleScript.Engine
  ─────────────────
  **The engine of regular expressions.**

  Conditions and replacements leave regular expressions to an engine, of which a
  script sees three things: whether a pattern is one, whether it occurs in a text,
  and the text with what it matches replaced.  A run takes its engine from its
  settings, so that what is said of runs is said of every engine.
-/

namespace RuleScript

/-- A pattern that an engine has accepted. -/
structure Expression where
  /-- The expression matches somewhere in the text. -/
  occursIn : (text : String) → Bool
  /-- The text with every match replaced; the replacement may refer to groups. -/
  replaceAll : (text replacement : String) → String

/-- An engine makes an expression of a pattern, or says why it is none. -/
structure Engine where
  compile : (pattern : String) → Except String Expression

/-- Replacing what matches nowhere gives the text back. -/
def Engine.KeepsUnmatched (engine : Engine) : Prop :=
  ∀ pattern expression, engine.compile pattern = .ok expression →
    ∀ text replacement, expression.occursIn text = false →
      expression.replaceAll text replacement = text

end RuleScript
