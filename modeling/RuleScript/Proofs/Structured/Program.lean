/-
  RuleScript.Proofs.Structured.Program
  ────────────────────────────────────
  **Rule scripts as nested programs.**

  A program is a tree: plain statements, blocks, and chains of conditions of
  which at most one branch runs.  It is evaluated by recursion on the tree, on
  nothing but an environment and a log: no flags, no depths, no words.  The first
  statement that fails ends the evaluation, with what was done before it kept.

  Every statement and every brace knows the line it is written on, as a failure
  and a log entry name the line of the statement they come from.

  Main definitions:
    • `Program.eval` — direct evaluation.
    • `Program.flat` — the statements of the tree in the order of the text.
    • `Program.wellFormed` — targets are no reserved words, and no bare block
      comes right after a chain.
-/
import RuleScript.Proofs.Script.Layout
import RuleScript.Run.Machine

namespace RuleScript.Structured

open Script (Located Statement Link)

/-! ## §1. Syntax. -/

/-- A plain statement. -/
inductive Action where
  | declare (name value : String)
  | log (message : String)
  | assign (target value : String)
  | unset (target : String)
  | replace (target pattern replacement : String)
  deriving Repr, DecidableEq

/-- What a branch of a chain is taken on. -/
structure Condition where
  left : String
  operator : String
  right : String
  deriving Repr, DecidableEq

mutual

/-- Statements one after the other. -/
inductive Program where
  | done
  | action (line : Nat) (action : Action) (rest : Program)
  | block (block : Block) (rest : Program)
  /-- A condition, the block that runs if it holds, and what is tried if not. -/
  | chain (line : Nat) (condition : Condition) (block : Block) (others : Branches)
      (rest : Program)

/-- A program between braces, and the lines of the braces. -/
inductive Block where
  | braces (opened : Nat) (body : Program) (closed : Nat)

/-- The branches of a chain after the first. -/
inductive Branches where
  | none
  | otherwise (line : Nat) (block : Block)
  | following (line : Nat) (condition : Condition) (block : Block) (others : Branches)

end

/-! ## §2. The statements of a program, in order. -/

/-- The statement that an action is. -/
def Action.statement : Action → Statement
  | .declare name value => .declare name value
  | .log message => .log message
  | .assign target value => .change target (.assign value)
  | .unset target => .change target .unset
  | .replace target pattern replacement => .change target (.replace pattern replacement)

/-- The statement that a condition is. -/
def Condition.statement (c : Condition) (link : Link) : Statement :=
  .condition link c.left c.operator c.right

mutual

/-- The statements of a program in the order of the text. -/
def Program.flat : Program → List Located
  | .done => []
  | .action line action rest => ⟨line, action.statement⟩ :: rest.flat
  | .block block rest => block.flat ++ rest.flat
  | .chain line condition block others rest =>
      ⟨line, condition.statement .opening⟩ :: (block.flat ++ (others.flat ++ rest.flat))

/-- The statements of a block, its braces included. -/
def Block.flat : Block → List Located
  | .braces opened body closed =>
      ⟨opened, .openBlock⟩ :: (body.flat ++ [⟨closed, .closeBlock⟩])

/-- The statements of the further branches of a chain. -/
def Branches.flat : Branches → List Located
  | .none => []
  | .otherwise line block => ⟨line, .otherwise⟩ :: block.flat
  | .following line condition block others =>
      ⟨line, condition.statement .following⟩ :: (block.flat ++ others.flat)

end

/-! ## §3. Well-formed programs. -/

/-- A target is no reserved word. -/
def Action.wellFormed (action : Action) : Bool := action.statement.complete

/-- The program starts with a bare block. -/
def Program.startsWithBlock : Program → Bool
  | .block _ _ => true
  | _ => false

mutual

/-- Targets are no reserved words, and no bare block comes right after a chain. -/
def Program.wellFormed : Program → Bool
  | .done => true
  | .action _ action rest => action.wellFormed && rest.wellFormed
  | .block block rest => block.wellFormed && rest.wellFormed
  | .chain _ _ block others rest =>
      block.wellFormed && others.wellFormed && !rest.startsWithBlock && rest.wellFormed

/-- The program between the braces is well-formed. -/
def Block.wellFormed : Block → Bool
  | .braces _ body _ => body.wellFormed

/-- The blocks of all branches are well-formed. -/
def Branches.wellFormed : Branches → Bool
  | .none => true
  | .otherwise _ block => block.wellFormed
  | .following _ _ block others => block.wellFormed && others.wellFormed

end

/-! ## §4. Evaluation. -/

/-- What a program acts on. -/
structure World where
  env : Environment
  log : List LogEntry
  deriving Repr

/-- A computation on a world that may fail; what it did before it failed stays. -/
abbrev Effect := EStateM ScriptError World

/-- The value of a partial operation; its error becomes the fault of a statement. -/
def attempt {α ε : Type} (line : Nat) (fault : ε → Fault) : Except ε α → Effect α
  | .ok a => pure a
  | .error e => throw ⟨fault e, line⟩

/-- Puts values in place of the references in a word. -/
def expand (line : Nat) (keyword word : String) : Effect String := do
  let world ← get
  attempt line (.expanding word keyword) (world.env.expand? word)

/-- Changes the environment; what a change that fails has left stays. -/
def alter (line : Nat) (fault : PathError → Fault)
    (change : Environment → Environment × Option PathError) : Effect Unit := do
  let world ← get
  let (env, failure) := change world.env
  set { world with env := env }
  match failure with
  | none => pure ()
  | some e => throw ⟨fault e, line⟩

/-- Writes a text at the end of a path. -/
def write (line : Nat) (path text : String) : Effect Unit :=
  alter line (.modifying path text) (·.write path text)

/-- Clears what a path points at. -/
def clear (line : Nat) (path : String) : Effect Unit :=
  alter line (.unsetting path) (·.clear path)

/-- A target names a root or has a dot in it. -/
def requireTarget (line : Nat) (target : String) : Effect Unit := do
  let world ← get
  if world.env.contains target || target.toList.contains '.' then pure ()
  else throw ⟨.unexpectedItem target, line⟩

/-- Whether a condition holds. -/
def Condition.eval (settings : Settings) (c : Condition) (line : Nat) (link : Link) :
    Effect Bool := do
  let left ← expand line link.keyword c.left
  let right ← expand line link.keyword c.right
  attempt line (.comparing link.keyword)
    (Comparison.holds settings.engine left c.operator right)

/-- Does what a plain statement says. -/
def Action.eval (settings : Settings) (line : Nat) : Action → Effect Unit
  | .declare name value => do
      let world ← get
      if world.env.contains name then throw ⟨.alreadyDeclared name, line⟩
      else set { world with env := world.env.own name (.string value) }
  | .log message => do
      let message ← if settings.expandLog then expand line "log" message else pure message
      modify fun world => { world with log := world.log ++ [⟨line, message⟩] }
  | .assign target value => do
      requireTarget line target
      let text ← expand line target value
      write line target text
  | .unset target => do
      requireTarget line target
      clear line target
  | .replace target pattern replacement => do
      requireTarget line target
      let expression ← attempt line (.comparing target)
        (Comparison.pattern settings.engine pattern)
      let replacement ← expand line target replacement
      let world ← get
      let value ← attempt line (.reading target) (world.env.read target)
      write line target (expression.replaceAll value.text replacement)

mutual

/-- Evaluates a program: its statements in order, and of every chain the block of
the first condition that holds, or else the last block if it has no condition. -/
def Program.eval (settings : Settings) : Program → Effect Unit
  | .done => pure ()
  | .action line action rest => do
      action.eval settings line
      rest.eval settings
  | .block block rest => do
      block.eval settings
      rest.eval settings
  | .chain line condition block others rest => do
      if ← condition.eval settings line .opening then block.eval settings
      else others.eval settings
      rest.eval settings

/-- Evaluates what is between the braces. -/
def Block.eval (settings : Settings) : Block → Effect Unit
  | .braces _ body _ => body.eval settings

/-- Evaluates the branches of a chain none of whose conditions has held so far. -/
def Branches.eval (settings : Settings) : Branches → Effect Unit
  | .none => pure ()
  | .otherwise _ block => block.eval settings
  | .following line condition block others => do
      if ← condition.eval settings line .following then block.eval settings
      else others.eval settings

end

end RuleScript.Structured
