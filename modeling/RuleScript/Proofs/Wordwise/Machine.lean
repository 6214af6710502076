/-
  RuleScript.Proofs.Wordwise.Machine
  ──────────────────────────────────
  **The run of a script, one word at a time.**

  A script is run by taking a word, and then the operands that this word asks
  for, straight from what is left of the text.  How many words a statement takes
  is decided while it runs: after a look at the frames, at the environment, and
  at the operator.  The machine here works in just this way.  It also keeps
  account of every request to expand, compare, match, read, write or clear, so
  what a run has *not* evaluated can be told.

  Main definitions:
    • `statement` — runs the statement that a word starts.
    • `Machine.turn` — takes one word and runs its statement.
    • `Within` / `Closes` — turns inside a block, and up to its closing brace.
    • `Ends` — a run as a whole.
-/
import RuleScript.Proofs.Script.Cursor
import RuleScript.Run.Machine

namespace RuleScript.Wordwise

open Script (Cursor Link Operand Word)

/-! ## §1. Machines. -/

/-- What a statement can ask to have evaluated. -/
inductive Request where
  | expand (word : String)
  | compare (left operator right : String)
  | compile (pattern : String)
  | read (path : String)
  | write (path text : String)
  | clear (path : String)
  deriving Repr, DecidableEq

/-- The state of a run, the place in the script, and all requests made so far. -/
structure Machine where
  cursor : Cursor
  state : State
  requests : List Request
  deriving Repr

/-- A part of a statement; where it fails, what was done before stays. -/
abbrev Interp := EStateM Fault Machine

/-- The machine before the first word. -/
def Machine.start (env : Environment) (script : List UInt8) : Machine :=
  ⟨.start (Script.uncomment script), .start env, []⟩

/-! ## §2. What statements are made of. -/

/-- The next word, as an operand of a statement. -/
def operand (keyword : String) (wanted : Operand) : Interp String := do
  let m ← get
  match m.cursor.next? with
  | some (word, cursor) => do
    set { m with cursor := cursor }
    return word.text
  | none => throw (.missingOperand keyword wanted)

/-- Statements take effect here. -/
def active : Interp Bool := do
  let m ← get
  return m.state.active

/-- Changes the state. -/
def update (f : State → State) : Interp Unit :=
  modify fun m => { m with state := f m.state }

/-- Whether a plain statement takes effect; if so, a block opened after it runs. -/
def activeStatement : Interp Bool := do
  if ← active then
    update (·.mapTop .runNext)
    return true
  else return false

/-- Has something evaluated that leaves the state as it is. -/
def ask {α : Type} (request : Request) (answer : State → Except Fault α) : Interp α := do
  let m ← get
  set { m with requests := m.requests ++ [request] }
  match answer m.state with
  | .ok value => return value
  | .error fault => throw fault

/-- Has something done to the state. -/
def perform (request : Request) (run : State → Outcome) : Interp Unit := do
  let m ← get
  set { m with state := (run m.state).state, requests := m.requests ++ [request] }
  match (run m.state).fault with
  | none => return ()
  | some fault => throw fault

def expand (keyword word : String) : Interp String :=
  ask (.expand word) (·.expand keyword word)

def compare (settings : Settings) (keyword left operator right : String) : Interp Bool :=
  ask (.compare left operator right) fun _ =>
    (Comparison.holds settings.engine left operator right).mapError (.comparing keyword)

def compile (settings : Settings) (keyword pattern : String) : Interp Expression :=
  ask (.compile pattern) fun _ =>
    (Comparison.pattern settings.engine pattern).mapError (.comparing keyword)

def read (path : String) : Interp Value :=
  ask (.read path) fun s => (s.env.read path).mapError (.reading path)

def write (path text : String) : Interp Unit :=
  perform (.write path text) (·.write path text)

def clear (path : String) : Interp Unit :=
  perform (.clear path) (·.unset path)

/-! ## §3. Statements. -/

/-- A condition that is evaluated. -/
def evaluate (settings : Settings) (keyword left operator right : String) : Interp Unit := do
  let left ← expand keyword left
  let right ← expand keyword right
  let result ← compare settings keyword left operator right
  update (·.mapTop (·.decided result))

/-- A condition: its operands are taken in any case. -/
def condition (settings : Settings) (link : Link) : Interp Unit := do
  let left ← operand link.keyword ⟨"value", "1st"⟩
  let operator ← operand link.keyword ⟨"validator", "2nd"⟩
  let right ← operand link.keyword ⟨"value", "3rd"⟩
  if ← active then
    match link with
    | .opening => do
      update (·.mapTop .startChain)
      evaluate settings link.keyword left operator right
    | .following => do
      let m ← get
      if m.state.frames.top.chainHeld then update (·.mapTop .skipNext)
      else evaluate settings link.keyword left operator right
  else update (·.mapTop .skipNext)

/-- A declaration. -/
def declare : Interp Unit := do
  let name ← operand "var" ⟨"resource variable", "1st"⟩
  let value ← operand "var" ⟨"set variable", "2nd"⟩
  if ← activeStatement then
    let m ← get
    if m.state.env.contains name then throw (.alreadyDeclared name)
    else update fun s => { s with env := s.env.own name (.string value) }

/-- A log entry. -/
def log (settings : Settings) (line : Nat) : Interp Unit := do
  let message ← operand "log" ⟨"string", "1st"⟩
  if ← activeStatement then
    if settings.expandLog then
      let message ← expand "log" message
      update fun s => { s with log := s.log ++ [⟨line, message⟩] }
    else update fun s => { s with log := s.log ++ [⟨line, message⟩] }

/-- The operator of a change, and the operands that it asks for. -/
def changeWith (settings : Settings) (target operator : String) (known : Bool) :
    Interp Unit := do
  if operator = "=" then
    let value ← operand target ⟨"value", "2nd"⟩
    if ← activeStatement then
      let text ← expand target value
      write target text
  else if operator = "unset" then
    if ← activeStatement then clear target
  else if operator = "replace_regex" then
    let pattern ← operand target ⟨"pattern", "2nd"⟩
    let replacement ← operand target ⟨"replacement", "3rd"⟩
    if ← activeStatement then
      let expression ← compile settings target pattern
      let replacement ← expand target replacement
      let value ← read target
      write target (expression.replaceAll value.text replacement)
  else if known then throw (.unknownOperator operator target)
  else throw (.unexpectedItem target)

/-- A change of what `target` names.  Where statements take effect, an unknown
target is refused before its operator is taken. -/
def change (settings : Settings) (target : String) : Interp Unit := do
  let m ← get
  if !m.state.knows target && m.state.active then throw (.unexpectedItem target)
  else
    let operator ← operand target ⟨"operator", "1st"⟩
    changeWith settings target operator (m.state.knows target)

/-- Closes the innermost block. -/
def close : Interp Unit := do
  let m ← get
  match m.state.frames.pop? with
  | some frames => set { m with state := { m.state with frames := frames } }
  | none => throw .unmatchedClose

/-- Runs the statement that `word` starts. -/
def statement (settings : Settings) (word : Word) : Interp Unit :=
  if word.text = "" then pure ()
  else if word.text = "if" then condition settings .opening
  else if word.text = "elseif" then condition settings .following
  else if word.text = "else" then update (·.mapTop .otherwise)
  else if word.text = "\x7b" then update fun s => { s with frames := s.frames.push }
  else if word.text = "\x7d" then close
  else if word.text = "var" then declare
  else if word.text = "log" then log settings word.line
  else change settings word.text

/-! ## §4. Turns. -/

/-- What comes of a turn. -/
inductive Turn where
  | goesOn (m : Machine)
  | stops (m : Machine) (error : Option ScriptError)
  deriving Repr

/-- Takes one word and runs its statement.  Where no word is left, the run is over,
and all blocks have to be closed. -/
def Machine.turn (settings : Settings) (m : Machine) : Turn :=
  match m.cursor.next? with
  | none =>
    if m.state.frames.depth = 0 then .stops m none
    else .stops m (some ⟨.openBlocks m.state.frames.depth, m.cursor.line⟩)
  | some (word, cursor) =>
    match (statement settings word).run { m with cursor := cursor } with
    | .ok () m => .goesOn m
    | .error fault m => .stops m (some ⟨fault, word.line⟩)

/-- Any number of turns, with at least `depth` blocks open after each. -/
inductive Within (settings : Settings) (depth : Nat) : Machine → Machine → Prop
  | here {m : Machine} : Within settings depth m m
  | turn {m m₁ m₂ : Machine} (first : m.turn settings = .goesOn m₁)
      (deep : depth ≤ m₁.state.frames.depth) (rest : Within settings depth m₁ m₂) :
      Within settings depth m m₂

/-- Any number of turns. -/
def Reaches (settings : Settings) : Machine → Machine → Prop := Within settings 0

/-- The turns up to the one that closes the innermost block. -/
def Closes (settings : Settings) (m closed : Machine) : Prop :=
  ∃ last, Within settings m.state.frames.depth m last ∧
    last.turn settings = .goesOn closed ∧
    closed.state.frames.depth < m.state.frames.depth

/-- A run from `m` to its end. -/
def Ends (settings : Settings) (m : Machine) (r : RunResult) : Prop :=
  ∃ last final, Reaches settings m last ∧
    last.turn settings = .stops final r.error ∧ final.state = r.state

end RuleScript.Wordwise
