/-
  RuleScript.Script.Statement
  ───────────────────────────
  **A script as a list of statements.**

  What a statement is, and how many words it takes, depends on the words alone:
  never on the environment, and never on whether the statement is skipped.  So
  the whole script is read before any of it is run.  A statement may stretch
  over several lines; its line is the line of its first word.

  A statement whose words run out stays in the list, as `incomplete` or as the
  `incomplete` change of a target, because what is wrong with it is reported
  only when it is reached.
-/
import RuleScript.Script.Word

namespace RuleScript.Script

/-! ## §1. Statements. -/

/-- An operand that a statement asks for: what it is, and its place. -/
structure Operand where
  what : String
  ordinal : String
  deriving Repr, DecidableEq

/-- The two conditions: one that opens a chain and one that carries it on. -/
inductive Link where
  | opening
  | following
  deriving Repr, DecidableEq

/-- The keyword that a condition is written with. -/
def Link.keyword : Link → String
  | .opening => "if"
  | .following => "elseif"

/-- What a statement does to the value that its first word names. -/
inductive Change where
  | assign (value : String)
  | unset
  | replace (pattern replacement : String)
  /-- No such operator. -/
  | unknown (operator : String)
  | incomplete (missing : Operand)
  deriving Repr, DecidableEq

/-- One statement. -/
inductive Statement where
  | blank
  | condition (link : Link) (left operator right : String)
  | otherwise
  | openBlock
  | closeBlock
  | declare (name value : String)
  | log (message : String)
  | change (target : String) (change : Change)
  | incomplete (keyword : String) (missing : Operand)
  deriving Repr, DecidableEq

/-- A statement and the line of its first word. -/
structure Located where
  line : Nat
  statement : Statement
  deriving Repr, DecidableEq

/-! ## §2. Reading. -/

/-- The change that `words` spell, and the words after it. -/
def readChange : List Word → Change × List Word
  | [] => (.incomplete ⟨"operator", "1st"⟩, [])
  | operator :: rest =>
    if operator.text = "=" then
      match rest with
      | value :: rest => (.assign value.text, rest)
      | [] => (.incomplete ⟨"value", "2nd"⟩, [])
    else if operator.text = "unset" then (.unset, rest)
    else if operator.text = "replace_regex" then
      match rest with
      | pattern :: replacement :: rest => (.replace pattern.text replacement.text, rest)
      | [_] => (.incomplete ⟨"replacement", "3rd"⟩, [])
      | [] => (.incomplete ⟨"pattern", "2nd"⟩, [])
    else (.unknown operator.text, rest)

/-- The condition that `words` spell, and the words after it. -/
def readCondition (link : Link) : List Word → Statement × List Word
  | left :: operator :: right :: rest =>
    (.condition link left.text operator.text right.text, rest)
  | [_, _] => (.incomplete link.keyword ⟨"value", "3rd"⟩, [])
  | [_] => (.incomplete link.keyword ⟨"validator", "2nd"⟩, [])
  | [] => (.incomplete link.keyword ⟨"value", "1st"⟩, [])

/-- The declaration that `words` spell, and the words after it. -/
def readDeclaration : List Word → Statement × List Word
  | name :: value :: rest => (.declare name.text value.text, rest)
  | [_] => (.incomplete "var" ⟨"set variable", "2nd"⟩, [])
  | [] => (.incomplete "var" ⟨"resource variable", "1st"⟩, [])

/-- The log entry that `words` spell, and the words after it. -/
def readLog : List Word → Statement × List Word
  | message :: rest => (.log message.text, rest)
  | [] => (.incomplete "log" ⟨"string", "1st"⟩, [])

/-- The statement whose first word has the text `head`, and the words after it. -/
def readStatement (head : String) (words : List Word) : Statement × List Word :=
  if head = "" then (.blank, words)
  else if head = "if" then readCondition .opening words
  else if head = "elseif" then readCondition .following words
  else if head = "else" then (.otherwise, words)
  else if head = "\x7b" then (.openBlock, words)
  else if head = "\x7d" then (.closeBlock, words)
  else if head = "var" then readDeclaration words
  else if head = "log" then readLog words
  else
    let step := readChange words
    (.change head step.1, step.2)

theorem length_readChange_le (words : List Word) :
    (readChange words).2.length ≤ words.length := by
  fun_cases readChange words <;> simp <;> omega

theorem length_readStatement_le (head : String) (words : List Word) :
    (readStatement head words).2.length ≤ words.length := by
  have hc (link : Link) : (readCondition link words).2.length ≤ words.length := by
    fun_cases readCondition link words <;> (simp; try omega)
  have hd : (readDeclaration words).2.length ≤ words.length := by
    fun_cases readDeclaration words <;> (simp; try omega)
  have hl : (readLog words).2.length ≤ words.length := by
    fun_cases readLog words <;> simp
  have hr := length_readChange_le words
  unfold readStatement
  repeat' split
  all_goals first
    | exact Nat.le_refl _
    | exact hc _
    | exact hd
    | exact hl
    | exact hr

/-- The statements that a list of words spells. -/
def readStatements : List Word → List Located
  | [] => []
  | word :: words =>
    let step := readStatement word.text words
    ⟨word.line, step.1⟩ :: readStatements step.2
termination_by words => words.length
decreasing_by exact Nat.lt_succ_of_le (length_readStatement_le ..)

/-- The statements of a script, its comments left out. -/
def statements (script : List UInt8) : List Located :=
  readStatements (Cursor.start (uncomment script)).words

end RuleScript.Script
