/-
  RuleScript.Proofs.Run.LineEnds
  ──────────────────────────────
  **Scripts whose lines end in a carriage return and a newline.**

  A carriage return is a blank, so at the end of a line it ends the last word, and the
  newline behind it is an empty word.  Where a statement starts, an empty word is a blank
  statement and does nothing.  Where a statement still waits for a word, it is the word that
  the statement gets.  So both ways to end lines mean the same in a script whose statements
  are not broken at the end of a line that ends in one of their words.

  Main results:
    • `effective_words_withReturns` — the statements that are read are the same.
    • `run_withReturns` — so are the runs.
    • `statements_withReturns_broken` — a broken statement goes on with an empty word.
    • `returns_change_meaning` — a broken statement makes a difference.
-/
import Mathlib
import RuleScript.Proofs.Script.Returns
import RuleScript.Proofs.Script.Wording
import RuleScript.Proofs.Structured.Execution

namespace RuleScript

namespace Script

/-! ## §1. Broken statements. -/

/-- After the words `seen`, no statement is broken: none still lacks a word at the end of a
line that directly follows a word. -/
def Unbroken (seen : List Word) (c : Cursor) : Prop :=
  ∀ before after, c.rest = before ++ newline :: after → endsInWord before = true →
    ∀ item ∈ readStatements (seen ++ Cursor.words ⟨before ++ [newline], c.line⟩),
      item.statement.lacking = false

/-- The same, looked for at every place of the text. -/
def isUnbroken (seen : List Word) (c : Cursor) : Bool :=
  (List.range c.rest.length).all fun k =>
    c.rest[k]? != some newline || !endsInWord (c.rest.take k)
      || (readStatements (seen ++ Cursor.words ⟨c.rest.take k ++ [newline], c.line⟩)).all
        (!·.statement.lacking)

theorem isUnbroken_iff {seen : List Word} {c : Cursor} :
    isUnbroken seen c = true ↔ Unbroken seen c := by
  unfold isUnbroken
  simp only [List.all_eq_true, List.mem_range, Bool.or_eq_true, bne_iff_ne, Bool.not_eq_true']
  constructor
  · intro h before after hrest hends
    have hlength : before.length < c.rest.length := by
      rw [hrest, List.length_append, List.length_cons]
      omega
    have htake : c.rest.take before.length = before := by rw [hrest, List.take_left]
    rcases h before.length hlength with (hget | hnot) | hall
    · rw [hrest, List.getElem?_append_right (Nat.le_refl _), Nat.sub_self] at hget
      exact absurd rfl hget
    · rw [htake, hends] at hnot
      cases hnot
    · rw [htake] at hall
      exact hall
  · intro h k hk
    by_cases hget : c.rest[k]? = some newline
    · obtain ⟨_, hline⟩ := List.getElem?_eq_some_iff.1 hget
      cases hends : endsInWord (c.rest.take k) with
      | false => exact .inl (.inr rfl)
      | true =>
          refine .inr (h _ (c.rest.drop (k + 1)) ?_ hends)
          rw [← hline, ← List.drop_eq_getElem_cons hk, List.take_append_drop]
    · exact .inl (.inl hget)

instance (seen : List Word) (c : Cursor) : Decidable (Unbroken seen c) :=
  decidable_of_iff (isUnbroken seen c = true) isUnbroken_iff

section
variable {seen : List Word} {line rest : List UInt8} {n : Nat} (hline : newline ∉ line)
  (hquote : quote ∉ line) (h : Unbroken seen ⟨line ++ newline :: rest, n⟩)
include hline hquote h

/-- At the end of the first line, if that ends in a word, no statement lacks a word. -/
theorem Unbroken.first (hends : endsInWord line = true) :
    ∀ item ∈ readStatements (seen ++ lineWords n [] line), item.statement.lacking = false := by
  have hwords : Cursor.words ⟨line ++ [newline], n⟩ = lineWords n [] line := by
    rw [words_line hline hquote, words_nil, List.append_nil]
  rw [← hwords]
  exact h line rest rfl hends

/-- The words of the first line are words that are seen from the second line on. -/
theorem Unbroken.next : Unbroken (seen ++ lineWords n [] line) ⟨rest, n + 1⟩ := by
  intro before after hrest hends
  dsimp only at hrest ⊢
  rw [List.append_assoc, ← words_line hline hquote, ← List.cons_append, ← List.append_assoc]
  refine h _ after ?_ ?_
  · rw [hrest, List.append_assoc, List.cons_append]
  · rw [endsInWord_append_cons (by decide)]
    exact hends

end

/-! ## §2. The statements of both scripts. -/

theorem effective_append (items more : List Located) :
    effective (items ++ more) = effective items ++ effective more :=
  List.filter_append ..

/-- Where no statement lacks a word, the end of a line is at most a blank statement. -/
theorem effective_blankEnd {words : List Word} {line : List UInt8}
    (h : endsInWord line = true →
      ∀ item ∈ readStatements words, item.statement.lacking = false)
    (n : Nat) (more : List Word) :
    effective (readStatements (words ++ (blankEnd line n ++ more)))
      = effective (readStatements (words ++ more)) := by
  unfold blankEnd
  split
  · next hends =>
      rw [readStatements_append (h hends), readStatements_append (h hends), effective_append,
        effective_append, List.singleton_append, effective_readStatements_empty]
  · rfl

/-- **The statements are the same, blank ones apart**, with carriage returns and without. -/
theorem effective_words_withReturns {seen : List Word} {s : List UInt8} {n : Nat}
    (hquote : quote ∉ s) (h : Unbroken seen ⟨s, n⟩) :
    effective (readStatements (seen ++ Cursor.words ⟨withReturns s, n⟩))
      = effective (readStatements (seen ++ Cursor.words ⟨s, n⟩)) := by
  by_cases hmem : newline ∈ s
  · -- Line by line; the words of the first one are among those seen when the others are read.
    obtain ⟨line, rest, rfl, hline⟩ := List.eq_append_cons_of_mem hmem
    rw [List.mem_append, List.mem_cons, not_or, not_or] at hquote
    obtain ⟨hquote, -, hquoteRest⟩ := hquote
    rw [withReturns_append, withReturns_of_not_mem hline, withReturns_newline,
      words_line_return hline hquote, words_line hline hquote, List.append_assoc,
      ← List.append_assoc seen, ← List.append_assoc seen]
    rw [effective_blankEnd (h.first hline hquote)]
    exact effective_words_withReturns hquoteRest (h.next hline hquote)
  · rw [withReturns_of_not_mem hmem]
termination_by s.length

/-- **A broken statement takes the end of the line.**  Where a line of a script without quotes
ends in a word, and the statement there still lacks one, that statement goes on with the
empty word that the end of the line is with a carriage return in front of it; what it leaves
is on the lines behind. -/
theorem statements_withReturns_broken {script before after : List UInt8} (hquote : quote ∉ script)
    (hscript : uncomment script = before ++ newline :: after) (hends : endsInWord before = true)
    {done operands : List Word} {head : Word}
    (hwords : Cursor.words ⟨withReturns before ++ [newline], 1⟩ = done ++ head :: operands)
    (hdone : ∀ item ∈ readStatements done, item.statement.lacking = false)
    (hbroken : (readStatement head.text operands).1.lacking = true) :
    let behind := Cursor.words ⟨withReturns after, lastLine before + 1⟩
    let step := readStatement head.text (operands ++ ⟨"", lastLine before⟩ :: behind)
    statements (withReturns script)
        = readStatements done ++ ⟨head.line, step.1⟩ :: readStatements step.2 ∧
      step.2 <:+ behind := by
  intro behind step
  refine ⟨?_, readStatement_suffix_of_lacking hbroken _ behind⟩
  have hbefore : quote ∉ before := by
    intro hmem
    refine hquote (uncomment_subset script ?_)
    rw [hscript]
    exact List.mem_append_left _ hmem
  show readStatements (Cursor.words ⟨uncomment (withReturns script), 1⟩) = _
  rw [uncomment_withReturns, hscript, words_withReturns_atWord hbefore hends, hwords,
    List.append_assoc, readStatements_append hdone, List.cons_append, readStatements_cons]
  rfl

end Script

/-! ## §3. Runs. -/

open Script (Cursor Unbroken carriageReturn quote uncomment withReturns)

/-- **Ends of lines do not change meaning** where no statement is broken.  A script without
quotes, in which no statement still lacks a word at the end of a line that directly follows
one of its words, does the same when every newline has a carriage return in front of it:
it leaves the same environment and the same log, and ends well or with the same error on
the same line. -/
theorem run_withReturns {settings : Settings} {env : Environment} {script : List UInt8}
    (hquote : quote ∉ script) (hbroken : Unbroken [] (Cursor.start (uncomment script))) :
    run settings env (withReturns script) = run settings env script := by
  have heffective : Script.effective (Script.statements (withReturns script))
      = Script.effective (Script.statements script) := by
    unfold Script.statements
    rw [Script.uncomment_withReturns]
    exact Script.effective_words_withReturns
      (fun hmem => hquote (Script.uncomment_subset script hmem)) hbroken
  have hstatements : runStatements settings (.start env) (Script.statements (withReturns script))
      = runStatements settings (.start env) (Script.statements script) := by
    rw [← Structured.runStatements_effective, heffective, Structured.runStatements_effective]
  have hlast : Script.lastLine (uncomment (withReturns script))
      = Script.lastLine (uncomment script) := by
    unfold Script.lastLine
    rw [Script.uncomment_withReturns, Script.count_newline_withReturns]
  unfold run
  rw [hstatements, hlast]

/-- A script with a comment over two lines, a block, and an error in its last line. -/
def sampleLines : List UInt8 :=
  Utf8.encode "var x /* \n */ 1\n\n\x7b\nx = $(x)2\nlog a\n\x7d\ny = 2"

theorem sampleLines_withReturns :
    quote ∉ sampleLines ∧ Unbroken [] (Cursor.start (uncomment sampleLines)) ∧
      (run (.plain Regex.engine) (.empty []) sampleLines).state.log = [⟨5, "a"⟩] ∧
      run (.plain Regex.engine) (.empty []) (withReturns sampleLines)
        = run (.plain Regex.engine) (.empty []) sampleLines := by
  have hquote : quote ∉ sampleLines := by decide
  have hbroken : Unbroken [] (Cursor.start (uncomment sampleLines)) := by
    have h : decide (Unbroken [] (Cursor.start (uncomment sampleLines))) = true := by cbv
    exact of_decide_eq_true h
  have hlog : (run (.plain Regex.engine) (.empty []) sampleLines).state.log = [⟨5, "a"⟩] := by
    cbv
  exact ⟨hquote, hbroken, hlog, run_withReturns hquote hbroken⟩

/-- The second line is the value of the variable, or a statement. -/
def sampleBroken : List UInt8 := Utf8.encode "var x\n1"

/-- **A broken statement gets the end of the line as its word** when that is a carriage return
and a newline. -/
theorem returns_change_meaning :
    ¬∀ (settings : Settings) (env : Environment) (script : List UInt8),
      quote ∉ script → carriageReturn ∉ script →
      (run settings env (withReturns script)).error = (run settings env script).error ∧
        (run settings env (withReturns script)).state.log = (run settings env script).state.log ∧
        ∀ name, (run settings env (withReturns script)).state.env.find? name
          = (run settings env script).state.env.find? name := by
  intro h
  have herror := (h (.plain Regex.engine) (.empty []) sampleBroken (by decide) (by decide)).1
  have hnone : (run (.plain Regex.engine) (.empty []) sampleBroken).error = none := by cbv
  have hsome : (run (.plain Regex.engine) (.empty []) (withReturns sampleBroken)).error
      = some ⟨.unexpectedItem "1", 2⟩ := by cbv
  rw [hnone, hsome] at herror
  cases herror

end RuleScript
