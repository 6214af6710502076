/-
  RuleScript.Proofs.Structured.Execution
  ──────────────────────────────────────
  **Running the text of a program is evaluating the program.**

  A program that is laid out as text is read word by word and run flatly, on a
  stack of flags.  Reading gives back its statements with blank ones in between,
  a blank statement does nothing, and the stack does what recursion does; so the
  run ends as the evaluation does, with the same environment, the same log, and
  the same fault on the same line.

  Main result:
    • `run_text_eq_eval`.
-/
import RuleScript.Proofs.Structured.Simulation
import RuleScript.Regex.Replace

namespace RuleScript.Structured

open Script (Located Manuscript Phrase Spelling effective)

/-! ## §1. Blank statements. -/

/-- Blank statements make no difference to a run. -/
theorem runStatements_effective (settings : Settings) (s : State) (items : List Located) :
    runStatements settings s (effective items) = runStatements settings s items := by
  induction items generalizing s with
  | nil => rfl
  | cons item items ih =>
      unfold effective at ih ⊢
      by_cases hb : item.statement = .blank
      -- A blank statement gives back the state it got.
      · rw [List.filter_cons_of_neg (by rw [hb]; decide), ih, runStatements]
        unfold State.step
        rw [hb]
        rfl
      · rw [List.filter_cons_of_pos (by simpa using hb), runStatements, runStatements]
        cases s.step settings item with
        | mk s' fault =>
            cases fault with
            | none => exact ih s'
            | some fault => rfl

/-! ## §2. The statements of a well-formed program. -/

mutual

theorem Program.complete_of_mem : (p : Program) → p.wellFormed = true →
    ∀ item ∈ p.flat, item.statement.complete = true
  | .done, _ => by
      intro item h
      cases h
  | .action line action rest, hw => by
      rw [Program.wellFormed, Bool.and_eq_true] at hw
      intro item h
      rcases List.mem_cons.1 h with rfl | h
      · exact hw.1
      · exact rest.complete_of_mem hw.2 item h
  | .block block rest, hw => by
      rw [Program.wellFormed, Bool.and_eq_true] at hw
      intro item h
      rcases List.mem_append.1 h with h | h
      · exact block.complete_of_mem hw.1 item h
      · exact rest.complete_of_mem hw.2 item h
  | .chain line condition block others rest, hw => by
      simp only [Program.wellFormed, Bool.and_eq_true] at hw
      obtain ⟨⟨⟨hblock, hothers⟩, -⟩, hrest⟩ := hw
      intro item h
      rcases List.mem_cons.1 h with rfl | h
      · rfl
      rcases List.mem_append.1 h with h | h
      · exact block.complete_of_mem hblock item h
      rcases List.mem_append.1 h with h | h
      · exact others.complete_of_mem hothers item h
      · exact rest.complete_of_mem hrest item h

theorem Block.complete_of_mem : (b : Block) → b.wellFormed = true →
    ∀ item ∈ b.flat, item.statement.complete = true
  | .braces opened body closed, hw => by
      intro item h
      rcases List.mem_cons.1 h with rfl | h
      · rfl
      rcases List.mem_append.1 h with h | h
      · exact body.complete_of_mem hw item h
      · rw [List.mem_singleton.1 h]
        rfl

theorem Branches.complete_of_mem : (b : Branches) → b.wellFormed = true →
    ∀ item ∈ b.flat, item.statement.complete = true
  | .none, _ => by
      intro item h
      cases h
  | .otherwise line block, hw => by
      intro item h
      rcases List.mem_cons.1 h with rfl | h
      · rfl
      · exact block.complete_of_mem hw item h
  | .following line condition block others, hw => by
      rw [Branches.wellFormed, Bool.and_eq_true] at hw
      intro item h
      rcases List.mem_cons.1 h with rfl | h
      · rfl
      rcases List.mem_append.1 h with h | h
      · exact block.complete_of_mem hw.1 item h
      · exact others.complete_of_mem hw.2 item h

end

/-! ## §3. Running a text. -/

/-- **A text runs as the program it is a rendering of.** -/
theorem run_text_eq_eval (settings : Settings) (env : Environment) (p : Program)
    (m : Manuscript) (hp : p.wellFormed = true) (hm : m.readable = true)
    (hspells : m.spells p.flat = true) (hu : Script.unmarked m.text = true) :
    ending (run settings env m.text) = (p.eval settings).run ⟨env, []⟩ := by
  have hread : effective (Script.statements m.text) = p.flat :=
    Script.effective_statements_text hm hspells (p.complete_of_mem hp) hu
  have hperforms : Performs settings (.start env) p.flat (p.eval settings)
      (fun frames => frames.active = true ∧ frames.below = []) :=
    p.performs hp rfl (fun _ => rfl)
  obtain ⟨heffect, hframes⟩ := hperforms
  rw [← hread, runStatements_effective] at heffect hframes
  -- All braces are closed again, so the end of the script adds no fault.
  have hend : run settings env m.text
      = runStatements settings (.start env) (Script.statements m.text) := by
    unfold run
    cases he : (runStatements settings (.start env) (Script.statements m.text)).error with
    | some e =>
        simp only [he]
        rfl
    | none =>
        have hdepth : (runStatements settings (.start env)
            (Script.statements m.text)).state.frames.depth = 0 :=
          congrArg List.length (hframes he).2
        simp only [he, hdepth]
        rfl
  rw [hend, heffect]
  rfl

/-- A chain in a block that runs, with a mutation that would change its later
conditions, over several lines. -/
def sampleProgram : Program :=
  .action 1 (.declare "x" "1") <|
  .chain 2 ⟨"$(x)", "==", "2"⟩ (.braces 2 (.action 3 (.assign "y" "0") .done) 4)
    (.following 4 ⟨"$(x)", "==", "1"⟩
      (.braces 4 (.action 5 (.assign "x" "2")
        (.block (.braces 5 (.action 5 (.log "say \"hi\"") .done) 5) .done)) 5)
      (.otherwise 6 (.braces 6 .done 6))) <|
  .action 7 (.unset "z") .done

/-- The program as text. -/
def sampleText : Manuscript :=
  let bare (word : String) : Spelling := ⟨word, false⟩
  let blank : UInt8 := 0x20
  let phrase (first : String) (others : List Spelling) (gap : List UInt8) : Phrase :=
    ⟨bare first, others.map ([blank], ·), gap⟩
  ⟨[], [phrase "var" [bare "x", bare "1"] [Script.newline],
    phrase "if" [bare "$(x)", bare "==", bare "2"] [blank],
    phrase "\x7b" [] [Script.newline, blank],
    phrase "y" [bare "=", bare "0"] [Script.newline],
    phrase "\x7d" [] [blank],
    phrase "elseif" [bare "$(x)", bare "==", ⟨"1", true⟩] [blank],
    phrase "\x7b" [] [Script.newline],
    phrase "x" [bare "=", bare "2"] [blank],
    phrase "\x7b" [] [blank],
    phrase "log" [⟨"say \"hi\"", true⟩] [blank],
    phrase "\x7d" [] [blank],
    phrase "\x7d" [] [Script.newline],
    phrase "else" [] [blank],
    phrase "\x7b" [] [blank],
    phrase "\x7d" [] [Script.newline],
    phrase "z" [bare "unset"] []]⟩

/-- The sample is a rendering of its program, and fails on the line of `z`. -/
theorem run_sampleText :
    sampleProgram.wellFormed = true ∧ sampleText.readable = true ∧
      sampleText.spells sampleProgram.flat = true ∧ Script.unmarked sampleText.text = true ∧
      ending (run (.plain Regex.engine) (.empty []) sampleText.text)
        = (sampleProgram.eval (.plain Regex.engine)).run ⟨.empty [], []⟩ := by
  have hp : sampleProgram.wellFormed = true := by decide
  have hm : sampleText.readable = true := by decide
  have hspells : sampleText.spells sampleProgram.flat = true := by decide
  have hu : Script.unmarked sampleText.text = true := by decide
  exact ⟨hp, hm, hspells, hu,
    run_text_eq_eval (.plain Regex.engine) (.empty []) _ _ hp hm hspells hu⟩

end RuleScript.Structured
