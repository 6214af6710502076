/-
  RuleScript.Proofs.Wordwise.Agreement
  ────────────────────────────────────
  **Reading word by word agrees with reading beforehand.**

  A turn of the machine runs the next of the statements that are read beforehand,
  and the place it gets to is the one from which the others are read.  So the
  machine has the run that the script has, up to the line on which an error is
  reported.

  Main results:
    • `goesOn_cases` / `stops_cases` — what a turn can do.
    • `ends_iff_run` — the machine has the run of the script and no other.
-/
import RuleScript.Proofs.Run.Skipped
import RuleScript.Proofs.Wordwise.Statements

namespace RuleScript.Wordwise

open Script (Cursor Word)

/-! ## §1. Turns. -/

/-- The statement that `word` starts, read from what comes after it. -/
def headed (word : Word) (c : Cursor) : Script.Located :=
  ⟨word.line, (Script.readStatement word.text c.words).1⟩

/-- The place after the operands of that statement. -/
def after (word : Word) (c : Cursor) : Cursor :=
  c.skip (headed word c).statement.words.tail.length

section
variable {settings : Settings} {m m' : Machine} {word : Word} {c : Cursor}

/-- **A turn runs the next statement.** -/
theorem exists_turn (settings : Settings) (hn : m.cursor.next? = some (word, c)) :
    ∃ m', m.turn settings
        = (match (m.state.step settings (headed word c)).fault with
          | none => .goesOn m'
          | some fault => .stops m' (some ⟨fault, word.line⟩)) ∧
      m'.state = (m.state.step settings (headed word c)).state ∧
      ((m.state.step settings (headed word c)).fault = none → m'.cursor = after word c) ∧
      (m.state.active = false → m'.requests = m.requests) := by
  obtain ⟨m', hrun, hrest⟩ :=
    does_statement (c := c) (s := m.state) (q := m.requests) settings word
  refine ⟨m', ?_, hrest⟩
  unfold Machine.turn headed
  simp only [hn, hrun]
  unfold result
  cases (m.state.step settings
    ⟨word.line, (Script.readStatement word.text c.words).1⟩).fault <;> rfl

/-- A turn goes on if the next statement does. -/
theorem exists_goesOn (hn : m.cursor.next? = some (word, c))
    (hok : (m.state.step settings (headed word c)).fault = none) :
    ∃ m', m.turn settings = .goesOn m' ∧
      m'.state = (m.state.step settings (headed word c)).state ∧ m'.cursor = after word c := by
  obtain ⟨m', hturn, hstate, hcursor, -⟩ := exists_turn settings hn
  rw [hok] at hturn
  exact ⟨m', hturn, hstate, hcursor hok⟩

/-- What a turn that goes on has done. -/
theorem goesOn_cases (h : m.turn settings = .goesOn m') :
    ∃ word c, m.cursor.next? = some (word, c) ∧
      (m.state.step settings (headed word c)).fault = none ∧
      m'.state = (m.state.step settings (headed word c)).state ∧ m'.cursor = after word c ∧
      (m.state.active = false → m'.requests = m.requests) := by
  cases hn : m.cursor.next? with
  | none =>
      unfold Machine.turn at h
      simp only [hn] at h
      split at h <;> cases h
  | some step =>
      obtain ⟨word, c⟩ := step
      obtain ⟨m₁, hturn, hstate, hcursor, hrequests⟩ := exists_turn settings hn
      rw [h] at hturn
      cases hf : (m.state.step settings (headed word c)).fault with
      | none =>
          rw [hf] at hturn
          cases hturn
          exact ⟨word, c, rfl, hf, hstate, hcursor hf, hrequests⟩
      | some fault =>
          rw [hf] at hturn
          cases hturn

/-- Why a run stops: no word is left, or the next statement fails. -/
theorem stops_cases {error : Option ScriptError} (h : m.turn settings = .stops m' error) :
    (m.cursor.next? = none ∧ m' = m ∧
      error = if m.state.frames.depth = 0 then none
        else some ⟨.openBlocks m.state.frames.depth, m.cursor.line⟩) ∨
    (∃ word c fault, m.cursor.next? = some (word, c) ∧
      m.state.step settings (headed word c) = ⟨m'.state, some fault⟩ ∧
      error = some ⟨fault, word.line⟩ ∧
      (m.state.active = false → m'.requests = m.requests)) := by
  cases hn : m.cursor.next? with
  | none =>
      refine .inl ⟨rfl, ?_⟩
      unfold Machine.turn at h
      simp only [hn] at h
      by_cases hd : m.state.frames.depth = 0
      · rw [if_pos hd] at h ⊢
        cases h
        exact ⟨rfl, rfl⟩
      · rw [if_neg hd] at h ⊢
        cases h
        exact ⟨rfl, rfl⟩
  | some step =>
      obtain ⟨word, c⟩ := step
      obtain ⟨m₁, hturn, hstate, -, hrequests⟩ := exists_turn settings hn
      rw [h] at hturn
      cases hf : m.state.step settings (headed word c) with
      | mk s fault =>
          rw [hf] at hturn hstate
          cases fault with
          | none => cases hturn
          | some fault =>
              cases hturn
              exact .inr ⟨word, c, fault, rfl, by rw [hf, hstate], rfl, hrequests⟩

end

/-! ## §2. Runs. -/

/-- The statements after one that goes on are read from the place after it. -/
theorem readStatements_after {settings : Settings} {s : State} {word : Word} {c : Cursor}
    (hok : (s.step settings (headed word c)).fault = none) :
    Script.readStatements (word :: c.words)
      = headed word c :: Script.readStatements (after word c).words := by
  -- A statement that goes on has all its words.
  have hlacking : (headed word c).statement.lacking = false := by
    cases hl : (headed word c).statement.lacking with
    | false => rfl
    | true => exact absurd hok (State.step_lacking hl)
  rw [Script.readStatements_cons, Script.readStatement_snd hlacking]
  unfold after
  rw [Cursor.words_skip]
  rfl

/-- A run at its end, on `line`: all blocks have to be closed. -/
def finish (r : RunResult) (line : Nat) : RunResult :=
  if r.error.isNone && r.state.frames.depth != 0 then
    { r with error := some ⟨.openBlocks r.state.frames.depth, line⟩ }
  else r

/-- From any machine there is a run, and it is the run of the statements to come. -/
theorem ends_runStatements (settings : Settings) (m : Machine) :
    Ends settings m
      (finish (runStatements settings m.state (Script.readStatements m.cursor.words))
        m.cursor.finalLine) := by
  -- Every turn takes at least one byte off the script.
  induction hlen : m.cursor.rest.length using Nat.strongRecOn generalizing m with
  | ind len ih =>
  cases hn : m.cursor.next? with
  | none =>
      have hwords : Script.readStatements m.cursor.words = [] := by
        rw [Cursor.words_of_next?_eq_none hn, Script.readStatements]
      rw [hwords, ← Cursor.line_eq_finalLine hn]
      refine ⟨m, m, .here, ?_, ?_⟩
      · unfold Machine.turn finish
        simp only [hn, runStatements]
        by_cases hd : m.state.frames.depth = 0
        · simp [hd]
        · simp [hd]
      · unfold finish
        split <;> rfl
  | some step =>
      obtain ⟨word, c⟩ := step
      rw [Cursor.words_of_next? hn]
      cases hf : (m.state.step settings (headed word c)).fault with
      -- One turn and one statement, and what is left is shorter and ends on the same line.
      | none =>
          obtain ⟨m₁, hturn, hstate, hcursor⟩ := exists_goesOn hn hf
          have hshort : m₁.cursor.rest.length < len := by
            rw [hcursor, ← hlen]
            exact Nat.lt_of_le_of_lt (Cursor.length_rest_skip_le _ _)
              (Cursor.length_rest_lt_of_next? hn)
          obtain ⟨last, final, hreach, hstops, hfinal⟩ := ih _ hshort m₁ rfl
          have hline : m₁.cursor.finalLine = m.cursor.finalLine := by
            rw [hcursor]
            exact (Cursor.finalLine_skip _ _).trans (Cursor.finalLine_of_next? hn)
          have hrun : runStatements settings m.state (Script.readStatements (word :: c.words))
              = runStatements settings m₁.state (Script.readStatements m₁.cursor.words) := by
            rw [readStatements_after hf, runStatements_goesOn hf, hstate, hcursor]
          rw [hrun, ← hline]
          exact ⟨last, final, .turn hturn (Nat.zero_le _) hreach, hstops, hfinal⟩
      | some fault =>
          obtain ⟨m₁, hturn, hstate, -⟩ := exists_turn settings hn
          rw [hf] at hturn
          have hrun : runStatements settings m.state (Script.readStatements (word :: c.words))
              = ⟨m₁.state, some ⟨fault, word.line⟩⟩ := by
            rw [Script.readStatements_cons, hstate]
            exact runStatements_stops hf _
          rw [hrun]
          exact ⟨m, m₁, .here, hturn, rfl⟩

/-- Two runs from one machine end alike. -/
theorem Ends.unique {settings : Settings} {m : Machine} {r r' : RunResult}
    (h : Ends settings m r) (h' : Ends settings m r') : r = r' := by
  obtain ⟨last, final, hreach, hstops, hstate⟩ := h
  obtain ⟨last', final', hreach', hstops', hstate'⟩ := h'
  -- A turn has one result, so the two runs go through the same machines.
  induction hreach with
  | here =>
      cases hreach' with
      | here =>
          rw [hstops] at hstops'
          cases r
          cases r'
          cases hstops'
          cases hstate
          cases hstate'
          rfl
      | turn first => rw [hstops] at first; cases first
  | turn first deep rest ih =>
      cases hreach' with
      | here => rw [first] at hstops'; cases hstops'
      | turn first' deep' rest' =>
          rw [first] at first'
          cases first'
          exact ih hstops rest'

/-- **The machine has the run of the script, and no other.** -/
theorem ends_iff_run (settings : Settings) (env : Environment) (script : List UInt8)
    (r : RunResult) :
    Ends settings (.start env script) r ↔ r = run settings env script := by
  have hrun : Ends settings (.start env script) (run settings env script) :=
    ends_runStatements settings (.start env script)
  constructor
  · intro h
    exact h.unique hrun
  · intro h
    rw [h]
    exact hrun

end RuleScript.Wordwise
