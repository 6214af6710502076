/-
  RuleScript.Run.Machine
  ──────────────────────
  **Running a script.**

  The statements are run one after the other on a state of frames, environment
  and log; the first one that fails ends the run, and what was done before it
  stays.  A statement in a block that is skipped does nothing, but a word that
  could not start a statement is an error there too.
-/
import RuleScript.Reference
import RuleScript.Run.Fault
import RuleScript.Run.Frame

namespace RuleScript

open Script (Change Link Located Statement)

/-! ## §1. States. -/

/-- How a script is run. -/
structure Settings where
  /-- What regular expressions are left to. -/
  engine : Engine
  /-- References in log entries are expanded. -/
  expandLog : Bool := false

/-- Log entries stay as they are written. -/
def Settings.plain (engine : Engine) : Settings := { engine := engine }

/-- References in log entries are expanded. -/
def Settings.expanding (engine : Engine) : Settings := { engine := engine, expandLog := true }

/-- What a script has logged, and the line it was logged on. -/
structure LogEntry where
  line : Nat
  message : String
  deriving Repr, DecidableEq

/-- The state of a run between two statements. -/
structure State where
  frames : Frames
  env : Environment
  log : List LogEntry
  deriving Repr

/-- A state, and the fault that ended the run there. -/
structure Outcome where
  state : State
  fault : Option Fault
  deriving Repr

namespace State

/-- The state before the first statement. -/
def start (env : Environment) : State := ⟨.start, env, []⟩

/-- Statements take effect here. -/
def active (s : State) : Bool := s.frames.active

/-- Changes the innermost frame. -/
def mapTop (f : Frame → Frame) (s : State) : State := { s with frames := s.frames.mapTop f }

/-- Goes on. -/
def ok (s : State) : Outcome := ⟨s, none⟩

/-- Ends the run. -/
def fail (s : State) (fault : Fault) : Outcome := ⟨s, some fault⟩

/-! ## §2. Conditions. -/

/-- Expands the references of a word for the statement that starts with `keyword`. -/
def expand (s : State) (keyword word : String) : Except Fault String :=
  (s.env.expand? word).mapError (.expanding word keyword)

/-- Whether a condition holds. -/
def test (settings : Settings) (s : State) (keyword left operator right : String) :
    Except Fault Bool := do
  let left ← s.expand keyword left
  let right ← s.expand keyword right
  (Comparison.holds settings.engine left operator right).mapError (.comparing keyword)

/-- Both sides of a condition are expanded before they are compared. -/
theorem test_of_expand {settings : Settings} {s : State} {keyword left right l r : String}
    (hl : s.expand keyword left = .ok l) (hr : s.expand keyword right = .ok r)
    (operator : String) :
    s.test settings keyword left operator right
      = (Comparison.holds settings.engine l operator r).mapError (.comparing keyword) := by
  unfold test
  rw [hl, hr]
  rfl

/-- A condition that is evaluated. -/
def evaluate (settings : Settings) (s : State) (keyword left operator right : String) :
    Outcome :=
  match s.test settings keyword left operator right with
  | .ok result => (s.mapTop (·.decided result)).ok
  | .error fault => s.fail fault

/-- A condition.  It is not evaluated in a block that is skipped, nor after a
condition of its chain that held. -/
def condition (settings : Settings) (s : State) (link : Link) (left operator right : String) :
    Outcome :=
  if !s.active then (s.mapTop .skipNext).ok
  else
    match link with
    | .opening => (s.mapTop .startChain).evaluate settings link.keyword left operator right
    | .following =>
      if s.frames.top.chainHeld then (s.mapTop .skipNext).ok
      else s.evaluate settings link.keyword left operator right

/-! ## §3. Declarations and log entries. -/

/-- A declaration. -/
def declare (s : State) (name value : String) : Outcome :=
  if !s.active then s.ok
  else
    let s := s.mapTop .runNext
    if s.env.contains name then s.fail (.alreadyDeclared name)
    else State.ok { s with env := s.env.own name (.string value) }

/-- A log entry. -/
def logEntry (settings : Settings) (s : State) (line : Nat) (message : String) : Outcome :=
  if !s.active then s.ok
  else
    let s := s.mapTop .runNext
    match if settings.expandLog then s.expand "log" message else .ok message with
    | .ok message => State.ok { s with log := s.log ++ [⟨line, message⟩] }
    | .error fault => s.fail fault

/-! ## §4. Changes. -/

/-- Writes a text at the end of a path. -/
def write (s : State) (path text : String) : Outcome :=
  let (env, failure) := s.env.write path text
  ⟨{ s with env := env }, failure.map (.modifying path text)⟩

/-- Assigns an expanded word. -/
def assign (s : State) (path word : String) : Outcome :=
  match s.expand path word with
  | .ok text => s.write path text
  | .error fault => s.fail fault

/-- Clears what a path points at. -/
def unset (s : State) (path : String) : Outcome :=
  let (env, failure) := s.env.clear path
  ⟨{ s with env := env }, failure.map (.unsetting path)⟩

/-- The text at the end of a path, with what matches replaced. -/
def replaced (settings : Settings) (s : State) (path pattern replacement : String) :
    Except Fault String := do
  let expression ← (Comparison.pattern settings.engine pattern).mapError (.comparing path)
  let replacement ← s.expand path replacement
  let value ← (s.env.read path).mapError (.reading path)
  return expression.replaceAll value.text replacement

/-- Replaces what matches in the text at the end of a path. -/
def replace (settings : Settings) (s : State) (path pattern replacement : String) : Outcome :=
  match s.replaced settings path pattern replacement with
  | .ok text => s.write path text
  | .error fault => s.fail fault

/-- The word can be the target of a change: it is a root, or has a dot. -/
def knows (s : State) (target : String) : Bool :=
  s.env.contains target || target.toList.contains '.'

/-- A change that takes effect where statements do; a block opened after it runs. -/
def whereActive (s : State) (run : State → Outcome) : Outcome :=
  if s.active then run (s.mapTop .runNext) else s.ok

/-- A declaration takes effect where changes do. -/
theorem declare_eq_whereActive (s : State) (name value : String) :
    s.declare name value = s.whereActive fun s =>
      if s.env.contains name then s.fail (.alreadyDeclared name)
      else State.ok { s with env := s.env.own name (.string value) } := by
  unfold declare whereActive
  cases s.active <;> rfl

/-- A log entry is made where changes take effect. -/
theorem logEntry_eq_whereActive (settings : Settings) (s : State) (line : Nat)
    (message : String) :
    s.logEntry settings line message = s.whereActive fun s =>
      match if settings.expandLog then s.expand "log" message else .ok message with
      | .ok message => State.ok { s with log := s.log ++ [⟨line, message⟩] }
      | .error fault => s.fail fault := by
  unfold logEntry whereActive
  cases s.active <;> rfl

/-- A change of what `target` names.  Variables that are declared in a skipped
block do not exist, so there an unknown target is an error only if its operator
is unknown too. -/
def change (settings : Settings) (s : State) (target : String) (change : Change) : Outcome :=
  -- Where statements take effect, the target is looked at before the operator.
  if !s.knows target && s.active then s.fail (.unexpectedItem target)
  else
    match change with
    | .assign value => s.whereActive (·.assign target value)
    | .unset => s.whereActive (·.unset target)
    | .replace pattern replacement =>
      s.whereActive (·.replace settings target pattern replacement)
    | .incomplete missing => s.fail (.missingOperand target missing)
    | .unknown operator =>
      if s.knows target then s.fail (.unknownOperator operator target)
      else s.fail (.unexpectedItem target)

theorem whereActive_of_active {s : State} (h : s.active = true) (run : State → Outcome) :
    s.whereActive run = run (s.mapTop .runNext) :=
  if_pos h

/-- Where statements take effect, a change of a known target is made. -/
theorem change_of_active {settings : Settings} {s : State} {target : String}
    (hactive : s.active = true) (hknows : s.knows target = true) (change : Change) :
    s.change settings target change =
      match change with
      | .assign value => (s.mapTop .runNext).assign target value
      | .unset => (s.mapTop .runNext).unset target
      | .replace pattern replacement =>
        (s.mapTop .runNext).replace settings target pattern replacement
      | .incomplete missing => s.fail (.missingOperand target missing)
      | .unknown operator => s.fail (.unknownOperator operator target) := by
  unfold State.change
  rw [hknows, if_neg (show ¬(!true && s.active) = true from Bool.false_ne_true)]
  cases change with
  | assign value => exact whereActive_of_active hactive _
  | unset => exact whereActive_of_active hactive _
  | replace pattern replacement => exact whereActive_of_active hactive _
  | incomplete missing => rfl
  | unknown operator => exact if_pos rfl

/-! ## §5. Statements. -/

/-- Runs one statement. -/
def step (settings : Settings) (s : State) (item : Located) : Outcome :=
  match item.statement with
  | .blank => s.ok
  | .condition link left operator right => s.condition settings link left operator right
  | .otherwise => (s.mapTop .otherwise).ok
  | .openBlock => State.ok { s with frames := s.frames.push }
  | .closeBlock =>
    match s.frames.pop? with
    | some frames => State.ok { s with frames := frames }
    | none => s.fail .unmatchedClose
  | .declare name value => s.declare name value
  | .log message => s.logEntry settings item.line message
  | .change target change => s.change settings target change
  | .incomplete keyword missing => s.fail (.missingOperand keyword missing)

section
variable {settings : Settings} {s : State}

/-- Closing a block brings back the frames below it. -/
theorem step_close {frames : Frames} (h : s.frames.pop? = some frames) (line : Nat) :
    s.step settings ⟨line, .closeBlock⟩ = State.ok { s with frames := frames } := by
  unfold step
  simp only [h]

theorem step_unmatched (h : s.frames.pop? = none) (line : Nat) :
    s.step settings ⟨line, .closeBlock⟩ = s.fail .unmatchedClose := by
  unfold step
  simp only [h]

end

end State

/-! ## §6. Scripts. -/

/-- A state, and the error that ended the run there. -/
structure RunResult where
  state : State
  error : Option ScriptError
  deriving Repr

/-- Runs statements up to the first that fails. -/
def runStatements (settings : Settings) : State → List Located → RunResult
  | s, [] => ⟨s, none⟩
  | s, item :: rest =>
    match s.step settings item with
    | ⟨s, none⟩ => runStatements settings s rest
    | ⟨s, some fault⟩ => ⟨s, some ⟨fault, item.line⟩⟩

/-- A statement that goes on leaves the rest to be run. -/
theorem runStatements_goesOn {settings : Settings} {s : State} {item : Located}
    (h : (s.step settings item).fault = none) (rest : List Located) :
    runStatements settings s (item :: rest)
      = runStatements settings (s.step settings item).state rest := by
  rw [runStatements]
  cases hs : s.step settings item with
  | mk s' fault =>
      rw [hs] at h
      cases h
      rfl

/-- A statement that fails ends the run. -/
theorem runStatements_stops {settings : Settings} {s : State} {item : Located} {fault : Fault}
    (h : (s.step settings item).fault = some fault) (rest : List Located) :
    runStatements settings s (item :: rest)
      = ⟨(s.step settings item).state, some ⟨fault, item.line⟩⟩ := by
  rw [runStatements]
  cases hs : s.step settings item with
  | mk s' fault =>
      rw [hs] at h
      cases h
      rfl

/-- A run of two lists of statements is a run of the first and, unless that fails,
of the second from where the first has ended. -/
theorem runStatements_append (settings : Settings) (s : State) (first second : List Located) :
    runStatements settings s (first ++ second) =
      match runStatements settings s first with
      | ⟨s, none⟩ => runStatements settings s second
      | failed => failed := by
  induction first generalizing s with
  | nil => rfl
  | cons item rest ih =>
    rw [List.cons_append, runStatements, runStatements]
    split
    · exact ih _
    · rfl

/-- Runs a script.  At its end all blocks have to be closed. -/
def run (settings : Settings) (env : Environment) (script : List UInt8) : RunResult :=
  let result := runStatements settings (.start env) (Script.statements script)
  if result.error.isNone && result.state.frames.depth != 0 then
    { result with
      error := some ⟨.openBlocks result.state.frames.depth,
        Script.lastLine (Script.uncomment script)⟩ }
  else result

/-- A script leaves what its statements leave. -/
theorem state_run (settings : Settings) (env : Environment) (script : List UInt8) :
    (run settings env script).state
      = (runStatements settings (.start env) (Script.statements script)).state := by
  unfold run
  exact (apply_ite RunResult.state _ _ _).trans (ite_self _)

/-- Scripts end alike whose statements do, with the same blocks open, and which have as many
lines. -/
theorem error_run_congr {settings settings' : Settings} {env env' : Environment}
    {script script' : List UInt8}
    (herror : (runStatements settings (.start env) (Script.statements script)).error
      = (runStatements settings' (.start env') (Script.statements script')).error)
    (hframes : (runStatements settings (.start env) (Script.statements script)).state.frames
      = (runStatements settings' (.start env') (Script.statements script')).state.frames)
    (hline : Script.lastLine (Script.uncomment script)
      = Script.lastLine (Script.uncomment script')) :
    (run settings env script).error = (run settings' env' script').error := by
  unfold run
  simp only [herror, hframes, hline]
  split
  · rfl
  · exact herror

/-- A script fails where one of its statements does. -/
theorem error_run_of_failed {settings : Settings} {env : Environment} {script : List UInt8}
    {error : ScriptError}
    (h : (runStatements settings (.start env) (Script.statements script)).error = some error) :
    (run settings env script).error = some error := by
  unfold run
  simp only [h, Option.isNone_some, Bool.false_and, Bool.false_eq_true, if_false]

/-- A script that fails does so in one of its statements, or because blocks are open. -/
theorem error_run_cases {settings : Settings} {env : Environment} {script : List UInt8}
    {error : ScriptError} (h : (run settings env script).error = some error) :
    (runStatements settings (.start env) (Script.statements script)).error = some error ∨
      ∃ count, error.fault = .openBlocks count := by
  unfold run at h
  simp only at h
  split at h
  · cases h
    exact .inr ⟨_, rfl⟩
  · exact .inl h

end RuleScript
