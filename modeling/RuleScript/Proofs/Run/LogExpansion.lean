/-
  RuleScript.Proofs.Run.LogExpansion
  ──────────────────────────────────
  **What the expansion of log entries changes.**

  Nothing that a script does looks at the log.  So a run that expands its log entries goes
  side by side with one that writes them as they are, in the same frames and environment,
  and what it logs is the expansion of what the other one logs.  They part only where an
  entry does not expand: there the one fails and the other goes on.

  Main results:
    • `State.step_withLog` — a statement that logs nothing does not look at the log.
    • `Alongside.step` / `Alongside.run` — two runs side by side.
    • `log_expansion_only_observes` — what both runs of a script have in common.
    • `expanded_log_is_not_raw` — the log of a failed run is expanded, too.
-/
import RuleScript.Proofs.Run.Failure
import RuleScript.Proofs.Run.Faults
import RuleScript.Regex.Replace

namespace RuleScript

open Script (Located Statement)

/-! ## §1. Statements do not look at the log. -/

/-- The state with another log. -/
def State.withLog (s : State) (log : List LogEntry) : State := { s with log := log }

/-- The same end, with another log. -/
def Outcome.withLog (o : Outcome) (log : List LogEntry) : Outcome := ⟨o.state.withLog log, o.fault⟩

namespace State

variable (s : State) (log : List LogEntry)

theorem withLog_self : s.withLog s.log = s := rfl

theorem expand_withLog (keyword word : String) :
    (s.withLog log).expand keyword word = s.expand keyword word := rfl

theorem write_withLog (path text : String) :
    (s.withLog log).write path text = (s.write path text).withLog log := rfl

theorem assign_withLog (path word : String) :
    (s.withLog log).assign path word = (s.assign path word).withLog log := by
  unfold assign
  rw [expand_withLog]
  cases s.expand path word with
  | ok text => exact s.write_withLog log path text
  | error fault => rfl

theorem unset_withLog (path : String) :
    (s.withLog log).unset path = (s.unset path).withLog log := rfl

theorem whereActive_withLog {run run' : State → Outcome}
    (hrun : ∀ s : State, run' (s.withLog log) = (run s).withLog log) :
    (s.withLog log).whereActive run' = (s.whereActive run).withLog log := by
  have hactive : (s.withLog log).active = s.active := rfl
  unfold whereActive
  rw [hactive]
  split
  · exact hrun (s.mapTop .runNext)
  · rfl

theorem declare_withLog (name value : String) :
    (s.withLog log).declare name value = (s.declare name value).withLog log := by
  rw [declare_eq_whereActive, declare_eq_whereActive]
  refine whereActive_withLog s log fun s => ?_
  have henv : (s.withLog log).env = s.env := rfl
  rw [henv]
  split <;> rfl

/-! The settings may differ in what is done with log entries. -/

section
variable {settings settings' : Settings} (hengine : settings'.engine = settings.engine)
include hengine

theorem replace_withLog (path pattern replacement : String) :
    (s.withLog log).replace settings' path pattern replacement
      = (s.replace settings path pattern replacement).withLog log := by
  have hreplaced : (s.withLog log).replaced settings' path pattern replacement
      = s.replaced settings path pattern replacement := by
    unfold replaced
    rw [hengine]
    rfl
  unfold replace
  rw [hreplaced]
  cases s.replaced settings path pattern replacement with
  | ok text => exact s.write_withLog log path text
  | error fault => rfl

theorem change_withLog (target : String) (step : Script.Change) :
    (s.withLog log).change settings' target step
      = (s.change settings target step).withLog log := by
  have hknows : (s.withLog log).knows target = s.knows target := rfl
  have hactive : (s.withLog log).active = s.active := rfl
  unfold change
  rw [hknows, hactive]
  split
  · rfl
  cases step with
  | assign value => exact whereActive_withLog s log fun s => s.assign_withLog log target value
  | unset => exact whereActive_withLog s log fun s => s.unset_withLog log target
  | replace pattern replacement =>
      exact whereActive_withLog s log fun s =>
        s.replace_withLog log hengine target pattern replacement
  | incomplete missing => rfl
  | unknown operator =>
      show (if s.knows target = true then _ else _ : Outcome)
        = (if s.knows target = true then _ else _ : Outcome).withLog log
      split <;> rfl

theorem evaluate_withLog (keyword left operator right : String) :
    (s.withLog log).evaluate settings' keyword left operator right
      = (s.evaluate settings keyword left operator right).withLog log := by
  have htest : (s.withLog log).test settings' keyword left operator right
      = s.test settings keyword left operator right := by
    unfold test
    rw [hengine]
    rfl
  unfold evaluate
  rw [htest]
  cases s.test settings keyword left operator right <;> rfl

theorem condition_withLog (link : Script.Link) (left operator right : String) :
    (s.withLog log).condition settings' link left operator right
      = (s.condition settings link left operator right).withLog log := by
  have hactive : (s.withLog log).active = s.active := rfl
  unfold condition
  rw [hactive]
  split
  · rfl
  cases link with
  | opening => exact (s.mapTop .startChain).evaluate_withLog log hengine _ left operator right
  | following =>
      show (if s.frames.top.chainHeld = true then _ else _ : Outcome)
        = (if s.frames.top.chainHeld = true then _ else _ : Outcome).withLog log
      split
      · rfl
      · exact s.evaluate_withLog log hengine _ left operator right

/-- **A statement that logs nothing does not look at the log**, and does the same however log
entries are written. -/
theorem step_withLog {item : Located}
    (hsilent : s.active = true → ∀ message, item.statement ≠ .log message) :
    (s.withLog log).step settings' item = (s.step settings item).withLog log := by
  obtain ⟨line, statement⟩ := item
  cases statement with
  | blank => rfl
  | otherwise => rfl
  | openBlock => rfl
  | incomplete keyword missing => rfl
  | condition link left operator right =>
      exact s.condition_withLog log hengine link left operator right
  | declare name value => exact s.declare_withLog log name value
  | change target step => exact s.change_withLog log hengine target step
  | closeBlock =>
      cases hp : s.frames.pop? with
      | some frames =>
          rw [step_close hp, step_close (s := s.withLog log) hp]
          rfl
      | none =>
          rw [step_unmatched hp, step_unmatched (s := s.withLog log) hp]
          rfl
  | log message =>
      have hinactive : s.active = false := by
        rw [Bool.eq_false_iff]
        exact fun hactive => hsilent hactive message rfl
      show (s.withLog log).logEntry settings' line message
        = (s.logEntry settings line message).withLog log
      have hactive : (s.withLog log).active = false := hinactive
      unfold logEntry
      rw [hactive, hinactive]
      rfl

end

/-- Such a statement leaves the log as it is. -/
theorem log_step (settings : Settings) {item : Located}
    (hsilent : s.active = true → ∀ message, item.statement ≠ .log message) :
    (s.step settings item).state.log = s.log := by
  have hstep := s.step_withLog s.log (rfl : settings.engine = settings.engine) hsilent
  rw [withLog_self] at hstep
  rw [hstep]
  rfl

end State

/-! ## §2. Log entries. -/

namespace State

section
variable (engine : Engine) {s : State} (hactive : s.active = true) (line : Nat) {message : String}
include hactive

theorem step_log_plain (message : String) :
    s.step (.plain engine) ⟨line, .log message⟩
      = ((s.mapTop .runNext).withLog (s.log ++ [⟨line, message⟩])).ok := by
  show s.logEntry (.plain engine) line message = _
  rw [logEntry_eq_whereActive, whereActive_of_active hactive]
  rfl

/-- An entry is made of what its message expands to. -/
theorem step_log_expanding {text : String} (h : s.env.expand? message = .ok text) :
    s.step (.expanding engine) ⟨line, .log message⟩
      = ((s.mapTop .runNext).withLog (s.log ++ [⟨line, text⟩])).ok := by
  have hexpand : (if (Settings.expanding engine).expandLog = true
      then (s.mapTop .runNext).expand "log" message else .ok message) = .ok text := by
    show (s.env.expand? message).mapError _ = _
    rw [h]
    rfl
  show s.logEntry (.expanding engine) line message = _
  rw [logEntry_eq_whereActive, whereActive_of_active hactive, hexpand]
  rfl

/-- An entry that does not expand is not made, and the run ends. -/
theorem step_log_failing {cause : PathError} (h : s.env.expand? message = .error cause) :
    s.step (.expanding engine) ⟨line, .log message⟩
      = (s.mapTop .runNext).fail (.expanding message "log" cause) := by
  have hexpand : (if (Settings.expanding engine).expandLog = true
      then (s.mapTop .runNext).expand "log" message else .ok message)
        = .error (.expanding message "log" cause) := by
    show (s.env.expand? message).mapError _ = _
    rw [h]
    rfl
  show s.logEntry (.expanding engine) line message = _
  rw [logEntry_eq_whereActive, whereActive_of_active hactive, hexpand]

end

/-- An entry that is made as it is written does not fail. -/
theorem fault_log_plain {engine : Engine} (s : State) (line : Nat)
    (message : String) :
    (s.step (.plain engine) ⟨line, .log message⟩).fault = none := by
  by_cases hactive : s.active = true
  · rw [step_log_plain engine hactive]
    rfl
  · show (s.logEntry (.plain engine) line message).fault = none
    rw [logEntry_eq_whereActive, whereActive, if_neg hactive]
    rfl

end State

/-- The run of the statements that makes its log entries as they are written comes to `s`, and
makes the next one there. -/
def Logs (engine : Engine) (env : Environment) (items : List Located) (s : State) (line : Nat)
    (message : String) : Prop :=
  ∃ done rest, items = done ++ ⟨line, .log message⟩ :: rest ∧
    runStatements (.plain engine) (.start env) done = ⟨s, none⟩ ∧ s.active = true

/-- The second log has the same entries as the first one, on the same lines, each with its
message expanded in the environment in which it was logged. -/
inductive LogExpands (engine : Engine) (env : Environment) (items : List Located) :
    List LogEntry → List LogEntry → Prop
  | nil : LogExpands engine env items [] []
  | entry {raw shown : List LogEntry} {s : State} {line : Nat} {message text : String}
      (before : LogExpands engine env items raw shown) (logs : Logs engine env items s line message)
      (log : s.log = raw) (expands : s.env.expand? message = .ok text) :
      LogExpands engine env items (raw ++ [⟨line, message⟩]) (shown ++ [⟨line, text⟩])

section
variable {engine : Engine} {env : Environment} {items : List Located}

theorem Logs.append {s : State} {line : Nat} {message : String}
    (h : Logs engine env items s line message) (more : List Located) : Logs engine env (items ++ more) s line message := by
  obtain ⟨done, rest, rfl, hdone, hactive⟩ := h
  refine ⟨done, rest ++ more, ?_, hdone, hactive⟩
  rw [List.append_assoc, List.cons_append]

theorem LogExpands.append {raw shown : List LogEntry} (h : LogExpands engine env items raw shown)
    (more : List Located) : LogExpands engine env (items ++ more) raw shown := by
  induction h with
  | nil => exact .nil
  | entry before logs log expands ih => exact .entry ih (logs.append more) log expands

/-- Entry for entry, the lines are the same. -/
theorem LogExpands.lines_eq {raw shown : List LogEntry}
    (h : LogExpands engine env items raw shown) :
    shown.map (·.line) = raw.map (·.line) := by
  induction h with
  | nil => rfl
  | entry before logs log expands ih =>
      rw [List.map_append, List.map_append, ih]
      rfl

end

/-! ## §3. Side by side. -/

/-- After the same statements, the two runs are in the same frames and environment, and what
the second one has logged is the expansion of what the first one has. -/
structure Alongside (engine : Engine) (env : Environment) (done : List Located) (s t : State) :
    Prop where
  reached : runStatements (.plain engine) (.start env) done = ⟨s, none⟩
  same : t = s.withLog t.log
  logs : LogExpands engine env done s.log t.log

/-- The two runs have ended alike, but for the expansion of what they have logged. -/
structure EndsAlike (engine : Engine) (env : Environment) (items : List Located)
    (r r' : RunResult) : Prop where
  error : r'.error = r.error
  same : r'.state = r.state.withLog r'.state.log
  logs : LogExpands engine env items r.state.log r'.state.log

/-- The second run has ended where the first one, in state `s`, makes an entry that does not
expand. -/
structure StopsAt (engine : Engine) (env : Environment) (items : List Located) (r' : RunResult)
    (s : State) (line : Nat) (message : String) (cause : PathError) : Prop where
  made : Logs engine env items s line message
  failing : s.env.expand? message = .error cause
  error : r'.error = some ⟨.expanding message "log" cause, line⟩
  left : r'.state.env = s.env
  logs : LogExpands engine env items s.log r'.state.log

section
variable {engine : Engine} {env : Environment} {done : List Located} {s t : State}

theorem Alongside.start (engine : Engine) (env : Environment) :
    Alongside engine env [] (.start env) (.start env) :=
  ⟨rfl, rfl, .nil⟩

theorem Alongside.env_eq (h : Alongside engine env done s t) : t.env = s.env := by
  rw [h.same]
  rfl

theorem Alongside.active_eq (h : Alongside engine env done s t) : t.active = s.active := by
  rw [h.same]
  rfl

/-- An entry that comes next is made. -/
theorem Alongside.makes (h : Alongside engine env done s t) (hactive : s.active = true) (line : Nat)
    (message : String) : Logs engine env (done ++ [⟨line, .log message⟩]) s line message :=
  ⟨done, [], rfl, h.reached, hactive⟩

/-- The second run ends where the first one makes an entry that does not expand. -/
theorem Alongside.run_failing (h : Alongside engine env done s t) (hactive : s.active = true)
    {message : String} {cause : PathError} (hexpand : s.env.expand? message = .error cause)
    (line : Nat) (rest : List Located) :
    runStatements (.expanding engine) t (⟨line, .log message⟩ :: rest)
      = ⟨t.mapTop .runNext, some ⟨.expanding message "log" cause, line⟩⟩ := by
  have hstep := State.step_log_failing engine (h.active_eq.trans hactive) line (h.env_eq ▸ hexpand)
  rw [runStatements, hstep]
  rfl

/-- A statement that goes on adds to what has been run. -/
theorem runStatements_concat {settings : Settings} {start : State} {item : Located}
    (hdone : runStatements settings start done = ⟨s, none⟩)
    (hok : (s.step settings item).fault = none) :
    runStatements settings start (done ++ [item]) = ⟨(s.step settings item).state, none⟩ := by
  rw [runStatements_append, hdone]
  exact runStatements_goesOn hok []

/-- **One statement, side by side.**  Both runs do the same, but for an entry that does not
expand. -/
theorem Alongside.step (h : Alongside engine env done s t) (item : Located) :
    ((t.step (.expanding engine) item).fault = (s.step (.plain engine) item).fault ∧
      (t.step (.expanding engine) item).state
        = (s.step (.plain engine) item).state.withLog (t.step (.expanding engine) item).state.log ∧
      LogExpands engine env (done ++ [item]) (s.step (.plain engine) item).state.log
        (t.step (.expanding engine) item).state.log) ∨
    ∃ line message cause, item = ⟨line, .log message⟩ ∧ s.active = true ∧
      s.env.expand? message = .error cause := by
  by_cases hlogs : s.active = true ∧ ∃ message, item.statement = .log message
  · obtain ⟨hactive, message, hmessage⟩ := hlogs
    obtain ⟨line, statement⟩ := item
    cases hmessage
    cases hexpand : s.env.expand? message with
    | ok text =>
        left
        rw [State.step_log_plain engine hactive,
          State.step_log_expanding engine (h.active_eq.trans hactive) line (h.env_eq ▸ hexpand)]
        refine ⟨rfl, ?_, .entry (h.logs.append _) (h.makes hactive line message) rfl hexpand⟩
        rw [h.same]
        rfl
    | error cause => exact .inr ⟨line, message, cause, rfl, hactive, hexpand⟩
  · left
    have hsilent (hactive : s.active = true) (message : String) :
        item.statement ≠ .log message := fun hmessage => hlogs ⟨hactive, message, hmessage⟩
    have hengine : (Settings.expanding engine).engine = (Settings.plain engine).engine := rfl
    have hstep := s.step_withLog t.log hengine hsilent
    rw [← h.same] at hstep
    rw [hstep]
    refine ⟨rfl, rfl, ?_⟩
    rw [s.log_step (.plain engine) hsilent]
    exact h.logs.append [item]

/-- **The rest of a run, side by side**, by induction on the statements that are left. -/
theorem Alongside.run (h : Alongside engine env done s t) (rest : List Located) :
    EndsAlike engine env (done ++ rest) (runStatements (.plain engine) s rest)
        (runStatements (.expanding engine) t rest) ∨
      ∃ s' line message cause,
        StopsAt engine env (done ++ rest) (runStatements (.expanding engine) t rest) s' line message
          cause := by
  induction rest generalizing done s t with
  | nil =>
      rw [List.append_nil]
      exact .inl ⟨rfl, h.same, h.logs⟩
  | cons item rest ih =>
      have happend : done ++ item :: rest = (done ++ [item]) ++ rest := by
        rw [List.append_assoc, List.singleton_append]
      rw [happend]
      rcases h.step item with ⟨hfault, hsame, hlogs⟩ | ⟨line, message, cause, rfl, hactive, hexpand⟩
      · cases hplain : (s.step (.plain engine) item).fault with
        | none =>
            have hexpanding := hfault.trans hplain
            rw [runStatements_goesOn hplain, runStatements_goesOn hexpanding]
            exact ih ⟨runStatements_concat h.reached hplain, hsame, hlogs⟩
        | some fault =>
            have hexpanding := hfault.trans hplain
            rw [runStatements_stops hplain, runStatements_stops hexpanding]
            exact .inl ⟨rfl, hsame, hlogs.append rest⟩
      · right
        rw [h.run_failing hactive hexpand]
        refine ⟨s, line, message, cause, (h.makes hactive line message).append rest, hexpand, rfl,
          h.env_eq, ?_⟩
        exact (h.logs.append [⟨line, .log message⟩]).append rest

end

/-! ## §4. Scripts. -/

section
variable {engine : Engine} {env : Environment} {items : List Located}

/-- Where an entry does not expand, the run that expands entries fails at one. -/
theorem exists_error_of_logs {s : State} {line : Nat} {message : String} {cause : PathError}
    (hlogs : Logs engine env items s line message)
    (hexpand : s.env.expand? message = .error cause) :
    ∃ line message cause, (runStatements (.expanding engine) (.start env) items).error
      = some ⟨.expanding message "log" cause, line⟩ := by
  obtain ⟨done, rest, rfl, hdone, hactive⟩ := hlogs
  rw [runStatements_append]
  rcases (Alongside.start engine env).run done with hends | ⟨s', line', message', cause', hstops⟩
  · -- Both runs get to the entry, and it does not expand.
    obtain ⟨herror, hsame, hlogs⟩ := hends
    rw [hdone] at herror hsame hlogs
    generalize hresult : runStatements (.expanding engine) (.start env) done = r'
      at herror hsame hlogs ⊢
    obtain ⟨t, error⟩ := r'
    cases herror
    have halong : Alongside engine env done s t := ⟨hdone, hsame, hlogs⟩
    exact ⟨line, message, cause,
      congrArg RunResult.error (halong.run_failing hactive hexpand line rest)⟩
  · -- The second run has failed before.
    have herror := hstops.error
    generalize hresult : runStatements (.expanding engine) (.start env) done = r' at herror ⊢
    obtain ⟨t, error⟩ := r'
    cases herror
    exact ⟨line', message', cause', rfl⟩

end

/-- No statement fails to expand an entry where entries are made as they are written. -/
theorem fault_step_plain {engine : Engine} {s : State} {item : Located} {words : List Script.Word}
    (hitem : item ∈ Script.readStatements words) (message : String) (cause : PathError) :
    (s.step (.plain engine) item).fault ≠ some (.expanding message "log" cause) := by
  intro hfault
  fun_induction Script.readStatements words with
  | case1 => cases hitem
  | case2 word words step ih =>
      rcases List.mem_cons.1 hitem with rfl | hitem
      · have hword : word.text = "log" := (Option.some.inj (keyword?_of_step hfault)).symm
        have hread : step = Script.readLog words := by
          show Script.readStatement word.text words = _
          rw [hword]
          rfl
        rw [hread] at hfault
        cases words with
        | nil => cases hfault
        | cons operand rest =>
            rw [show (Script.readLog (operand :: rest)).1 = .log operand.text from rfl,
              State.fault_log_plain] at hfault
            cases hfault
      · exact ih hitem

/-- A script whose entries are made as they are written does not fail to expand one. -/
theorem error_run_plain (engine : Engine) (env : Environment) (script : List UInt8) (line : Nat)
    (message : String) (cause : PathError) :
    (run (.plain engine) env script).error ≠ some ⟨.expanding message "log" cause, line⟩ := by
  intro herror
  rcases error_run_cases herror with hfailed | ⟨count, hopen⟩
  · obtain ⟨done, item, rest, s, hitems, -, hfault, -⟩ := runStatements_failed hfailed
    have hitem : item ∈ Script.statements script := by
      rw [hitems]
      exact List.mem_append_right done List.mem_cons_self
    exact fault_step_plain hitem message cause hfault
  · cases hopen

/-- **Expanding log entries only observes.**  Take the run of a script that makes its log
entries as they are written, and the one that expands them.  If all entries that are made
expand, both end alike, with the same error if there is one and the same environment, and
the second has logged what the first has, on the same lines and each message expanded
in the environment in which it was logged.  If the second fails at an entry that does not
expand, the first gets to that entry too, the environment is the one it has there, and
the log is, in this same way, the expansion of the one it has there.  And if some entry
that is made does not expand, the second run fails at one. -/
theorem log_expansion_only_observes (engine : Engine) (env : Environment) (script : List UInt8) :
    let items := Script.statements script
    let raw := run (.plain engine) env script
    let shown := run (.expanding engine) env script
    ((∀ s line message, Logs engine env items s line message →
        ∃ text, s.env.expand? message = .ok text) →
      shown.error = raw.error ∧ shown.state.env = raw.state.env ∧
        shown.state.log.map (·.line) = raw.state.log.map (·.line) ∧
        LogExpands engine env items raw.state.log shown.state.log) ∧
    (∀ line message cause, shown.error = some ⟨.expanding message "log" cause, line⟩ →
      ∃ s, Logs engine env items s line message ∧ s.env.expand? message = .error cause ∧
        shown.state.env = s.env ∧ shown.state.log.map (·.line) = s.log.map (·.line) ∧
        LogExpands engine env items s.log shown.state.log) ∧
    ∀ s line message cause, Logs engine env items s line message →
      s.env.expand? message = .error cause →
        ∃ line message cause, shown.error = some ⟨.expanding message "log" cause, line⟩ := by
  intro items raw shown
  have hraw : raw.state = (runStatements (.plain engine) (.start env) items).state := state_run ..
  have hshown : shown.state = (runStatements (.expanding engine) (.start env) items).state :=
    state_run ..
  have hends (h : EndsAlike engine env items (runStatements (.plain engine) (.start env) items)
      (runStatements (.expanding engine) (.start env) items)) : shown.error = raw.error :=
    error_run_congr h.error (by rw [h.same]; rfl) rfl
  have hsides := (Alongside.start engine env).run items
  rw [List.nil_append] at hsides
  rw [hraw, hshown]
  refine ⟨?_, ?_, ?_⟩
  · intro hexpand
    rcases hsides with h | ⟨s, line, message, cause, h⟩
    · exact ⟨hends h, by rw [h.same]; rfl, h.logs.lines_eq, h.logs⟩
    · obtain ⟨text, htext⟩ := hexpand s line message h.made
      rw [h.failing] at htext
      cases htext
  · intro line message cause herror
    rcases hsides with h | ⟨s, line', message', cause', h⟩
    · exact absurd ((hends h).symm.trans herror)
        (error_run_plain engine env script line message cause)
    · have hboth := (error_run_of_failed h.error).symm.trans herror
      cases hboth
      exact ⟨s, h.made, h.failing, h.left, h.logs.lines_eq, h.logs⟩
  · intro s line message cause hlogs hexpand
    obtain ⟨line', message', cause', herror⟩ := exists_error_of_logs hlogs hexpand
    exact ⟨line', message', cause', error_run_of_failed herror⟩

/-- A script that logs a variable, and then one that there is none of. -/
def sampleLogged : List UInt8 := Utf8.encode "var x 1\nlog $(x)\nlog $(y)"

/-- **The log of a failed run is expanded, too**: it is not the one that the other run has
before the failing entry. -/
theorem expanded_log_is_not_raw :
    ¬∀ (engine : Engine) (env : Environment) (script : List UInt8) (line : Nat)
        (message : String) (cause : PathError),
      (run (.expanding engine) env script).error = some ⟨.expanding message "log" cause, line⟩ →
        ∃ s, Logs engine env (Script.statements script) s line message ∧
          (run (.expanding engine) env script).state.log = s.log ∧
          (run (.expanding engine) env script).state.env = s.env := by
  intro hclaim
  have herror : (run (.expanding Regex.engine) (.empty []) sampleLogged).error
      = some ⟨.expanding "$(y)" "log" (.unknownRoot "y"), 3⟩ := by
    cbv
  obtain ⟨s, ⟨done, rest, hitems, hdone, -⟩, hlog, -⟩ := hclaim _ _ _ _ _ _ herror
  have hstatements : Script.statements sampleLogged
      = [⟨1, .declare "x" "1"⟩, ⟨2, .log "$(x)"⟩] ++ [⟨3, .log "$(y)"⟩] := by
    cbv
  -- The failing entry is the third statement, so the other two have been run.
  have hbefore : done = [⟨1, .declare "x" "1"⟩, ⟨2, .log "$(x)"⟩] := by
    rw [hstatements] at hitems
    rcases done with _ | ⟨first, _ | ⟨second, _ | ⟨third, done⟩⟩⟩
    · cases hitems
    · cases hitems
    · cases hitems
      rfl
    · simp at hitems
  subst hbefore
  have hraw : (runStatements (.plain Regex.engine) (.start (.empty []))
      [⟨1, .declare "x" "1"⟩, ⟨2, .log "$(x)"⟩]).state.log = [⟨2, "$(x)"⟩] := by
    cbv
  have hshown : (run (.expanding Regex.engine) (.empty []) sampleLogged).state.log = [⟨2, "1"⟩] := by
    cbv
  rw [hdone] at hraw
  rw [hlog, hraw] at hshown
  exact absurd hshown (by decide)

end RuleScript
