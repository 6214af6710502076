/-
  RuleScript.Proofs.Run.ErrorLine
  ───────────────────────────────
  **The line of an error.**

  A script is run without its comments, and where a statement fails, the error has the line
  that its first word starts on, wherever its operands are.  Whoever shows the error takes
  the comments out once more, reads what is left as text, well formed or not, and looks that
  line up.  Ends of lines are read as such whatever stands around them, so it is there, and
  the statement starts on it.

  Main results:
    • `lines_decode_getElem?` — the line that a place in a text is on.
    • `error_line` — where a failed run points at.
-/
import Mathlib
import RuleScript.CommandLine
import RuleScript.Proofs.Run.Faults
import RuleScript.Proofs.Script.Lines
import RuleScript.Proofs.Text.Lines
import RuleScript.Proofs.Wordwise.Skipping

namespace RuleScript

open Script (Cursor newline)

/-! ## §1. The line of a place. -/

/-- What stands on the line up to a place, by what is in front of it. -/
def lineFront (before : List UInt8) : List UInt8 := before.rtakeWhile (· != newline)

/-- What stands on the line from a place on, by what is behind it. -/
def lineRest (behind : List UInt8) : List UInt8 := behind.takeWhile (· != newline)

/-- The line of a place as it is shown.  A carriage return is part of its end, if it has
one. -/
def shownLine (before behind : List UInt8) : List Char :=
  let line := Utf8.decode (lineFront before ++ lineRest behind)
  if newline ∈ behind then Text.dropReturn line else line

theorem lineRest_cons {b : UInt8} (hb : b ≠ newline) (s : List UInt8) :
    lineRest (b :: s) = b :: lineRest s :=
  List.takeWhile_cons_of_pos (bne_iff_ne.2 hb)

/-- No end of a line stands on a line. -/
theorem newline_not_mem_lineRest (s : List UInt8) : newline ∉ lineRest s := by
  intro hmem
  exact absurd (List.all_eq_true.1 List.all_takeWhile newline hmem) (by decide)

/-- A text is one line, or has an end of a line behind its first one. -/
theorem lineRest_cases (s : List UInt8) :
    (newline ∉ s ∧ lineRest s = s) ∨ (newline ∈ s ∧ ∃ rest, s = lineRest s ++ newline :: rest) := by
  induction s with
  | nil => exact .inl ⟨List.not_mem_nil, rfl⟩
  | cons b s ih =>
      by_cases hb : b = newline
      · subst hb
        exact .inr ⟨List.mem_cons_self, s, rfl⟩
      · rw [lineRest_cons hb, List.mem_cons, not_or]
        rcases ih with ⟨hnone, hs⟩ | ⟨hmem, rest, hs⟩
        · exact .inl ⟨⟨Ne.symm hb, hnone⟩, congrArg (b :: ·) hs⟩
        · exact .inr ⟨.inr hmem, rest, congrArg (b :: ·) hs⟩

/-- A text is one line, or has an end of a line in front of its last one. -/
theorem lineFront_cases (s : List UInt8) :
    newline ∉ lineFront s ∧ (lineFront s = s ∨ ∃ front, s = front ++ newline :: lineFront s) := by
  -- Backwards, the last line is the first one.
  have hreverse : lineFront s = (lineRest s.reverse).reverse := rfl
  rw [hreverse]
  refine ⟨mt List.mem_reverse.1 (newline_not_mem_lineRest _), ?_⟩
  rcases lineRest_cases s.reverse with ⟨-, hs⟩ | ⟨-, rest, hs⟩
  · exact .inl (by rw [hs, List.reverse_reverse])
  · refine .inr ⟨rest.reverse, ?_⟩
    simpa using congrArg List.reverse hs

/-- The character that ends a line is read where its byte stands. -/
theorem decode_append_newline (a b : List UInt8) :
    Utf8.decode (a ++ newline :: b) = Utf8.decode a ++ '\n' :: Utf8.decode b :=
  Utf8.decode_append (c := '\n') (by decide) a b

theorem newline_not_mem_decode {s : List UInt8} (h : newline ∉ s) : '\n' ∉ Utf8.decode s :=
  mt (Utf8.byte_mem_of_mem_decode (by decide) (by decide)) h

theorem count_newline_decode (s : List UInt8) :
    (Utf8.decode s).count '\n' = s.count newline :=
  Utf8.count_decode (c := '\n') (by decide) (by decide) s

/-- The first line of what is read. -/
theorem lines_decode_first {lead : List UInt8} (hlead : newline ∉ lead) {b : UInt8}
    (hb : b ≠ newline) (rest : List UInt8) :
    (Text.lines (Utf8.decode (lead ++ b :: rest)))[0]?
      = some (if newline ∈ b :: rest then Text.dropReturn (Utf8.decode (lead ++ lineRest (b :: rest)))
          else Utf8.decode (lead ++ lineRest (b :: rest))) := by
  have hne : lead ++ lineRest (b :: rest) ≠ [] := by
    rw [lineRest_cons hb]
    exact List.append_ne_nil_of_right_ne_nil _ (List.cons_ne_nil _ _)
  have hline : '\n' ∉ Utf8.decode (lead ++ lineRest (b :: rest)) := by
    apply newline_not_mem_decode
    rw [List.mem_append, not_or]
    exact ⟨hlead, newline_not_mem_lineRest _⟩
  rcases lineRest_cases (b :: rest) with ⟨hnone, hrest⟩ | ⟨hmem, others, hrest⟩
  · rw [if_neg hnone]
    rw [hrest] at hne hline ⊢
    rw [Text.lines_of_not_mem hline (Utf8.decode_ne_nil hne)]
    rfl
  · have hdecode : Utf8.decode (lead ++ b :: rest)
        = Utf8.decode (lead ++ lineRest (b :: rest)) ++ '\n' :: Utf8.decode others := by
      rw [← decode_append_newline, List.append_assoc, ← hrest]
    rw [if_pos hmem, hdecode, Text.lines_cons hline]
    rfl

/-- **The line that a place in a text is on**, found by the number of ends of lines in front
of it. -/
theorem lines_decode_getElem? (before : List UInt8) {b : UInt8} (hb : b ≠ newline)
    (rest : List UInt8) :
    (Text.lines (Utf8.decode (before ++ b :: rest)))[before.count newline]?
      = some (shownLine before (b :: rest)) := by
  obtain ⟨hlead, hbefore⟩ := lineFront_cases before
  have hfirst := lines_decode_first hlead hb rest
  have hzero := List.count_eq_zero_of_not_mem hlead
  rcases hbefore with hbefore | ⟨front, hbefore⟩
  · rw [hbefore] at hfirst hzero
    rw [hzero, hfirst, shownLine, hbefore]
  · have hdecode : Utf8.decode (before ++ b :: rest)
        = Utf8.decode front ++ '\n' :: Utf8.decode (lineFront before ++ b :: rest) := by
      rw [← decode_append_newline, ← List.cons_append, ← List.append_assoc, ← hbefore]
    have hcount : before.count newline = (Utf8.decode front ++ ['\n']).count '\n' := by
      have hsum := congrArg (List.count newline) hbefore
      rw [List.count_append, List.count_cons_self, hzero] at hsum
      rw [hsum, List.count_append, count_newline_decode]
      rfl
    rw [hdecode, hcount, Text.lines_getElem?_append, hfirst, shownLine]

/-! ## §2. Failed runs. -/

namespace Wordwise

/-- What a turn goes on from is a place in the script. -/
theorem cursor_of_reaches {settings : Settings} {env : Environment} {script : List UInt8}
    {m : Machine} (h : Reaches settings (.start env script) m) :
    ∃ n, m.cursor = (Cursor.start (Script.uncomment script)).skip n := by
  refine Within.invariant (P := fun m => ∃ n, m.cursor = (Cursor.start _).skip n) ?_ h ⟨0, rfl⟩
  rintro m m' ⟨n, hn⟩ hturn -
  obtain ⟨word, c, hnext, -, -, hcursor, -⟩ := goesOn_cases hturn
  refine ⟨n + (1 + (headed word c).statement.words.tail.length), ?_⟩
  rw [hcursor, ← Cursor.skip_skip, ← hn, Nat.add_comm, Cursor.skip_of_next? hnext]
  rfl

/-- The run of the script has come to `m` when it fails with `error`. -/
structure FailsAt (settings : Settings) (env : Environment) (script : List UInt8)
    (error : ScriptError) (m : Machine) : Prop where
  reached : Reaches settings (.start env script) m
  stops : ∃ final, m.turn settings = .stops final (some error) ∧
    final.state = (run settings env script).state

end Wordwise

/-- The error has the line of the first byte of the next word: one more than there are ends of
lines in front of it.  That line is found among those of what is read without comments, and
it is the one that byte is on. -/
def ScriptError.PointsAt (error : ScriptError) (script : List UInt8) (c : Cursor) : Prop :=
  ∃ before b rest, c.atWord.rest = b :: rest ∧ Script.uncomment script = before ++ b :: rest ∧
    error.line = 1 + before.count newline ∧
    (Text.lines (Utf8.decode (Script.uncomment script)))[error.line - 1]?
      = some (shownLine before (b :: rest)) ∧
    CommandLine.lineText script error.line = String.ofList (shownLine before (b :: rest))

/-- Where the next word is not empty, an error on its line points at it. -/
theorem pointsAt_word {script : List UInt8} {n : Nat} {word : Script.Word} {next : Cursor}
    (hnext : ((Cursor.start (Script.uncomment script)).skip n).next? = some (word, next))
    (hword : word.text ≠ "") (fault : Fault) :
    ScriptError.PointsAt ⟨fault, word.line⟩ script
      ((Cursor.start (Script.uncomment script)).skip n) := by
  obtain ⟨b, rest, hrest, hb⟩ := Cursor.atWord_cons hnext hword
  obtain ⟨blanks, hblanks, hnone⟩ :=
    Cursor.count_newline_atWord ((Cursor.start (Script.uncomment script)).skip n)
  obtain ⟨passed, hpassed⟩ := Cursor.rest_skip_suffix n (Cursor.start (Script.uncomment script))
  replace hpassed : Script.uncomment script
      = passed ++ ((Cursor.start (Script.uncomment script)).skip n).rest := hpassed.symm
  obtain ⟨hline, -⟩ := Cursor.taken_of_next? hnext
  have hscript : Script.uncomment script = (passed ++ blanks) ++ b :: rest := by
    rw [List.append_assoc, ← hrest, ← hblanks]
    exact hpassed
  have hcount : word.line = 1 + (passed ++ blanks).count newline := by
    rw [hline, Script.line_skip hpassed, List.count_append, hnone, Nat.add_zero]
  have hshown : (Text.lines (Utf8.decode (Script.uncomment script)))[word.line - 1]?
      = some (shownLine (passed ++ blanks) (b :: rest)) := by
    rw [hcount, Nat.add_sub_cancel_left, hscript]
    exact lines_decode_getElem? (passed ++ blanks) hb rest
  refine ⟨passed ++ blanks, b, rest, hrest, hscript, hcount, hshown, ?_⟩
  unfold CommandLine.lineText
  simp only [hshown, Option.getD_some]

/-- **An error points at the statement that has failed.**  A run fails where a statement does,
and the fault is about the word that this one starts with; or it fails at the end, where
blocks are left open, and only then with the line of the end.  The line of a failed
statement is that of the first byte of its first word, and when it is looked up, the line
that this byte is on is shown. -/
theorem error_line {settings : Settings} {env : Environment} {script : List UInt8}
    {error : ScriptError} (herror : (run settings env script).error = some error) :
    ∃ m, Wordwise.FailsAt settings env script error m ∧
      ((m.cursor.next? = none ∧ error.fault = .openBlocks m.state.frames.depth ∧
          error.line = 1 + (Script.uncomment script).count newline) ∨
        ∃ word next, m.cursor.next? = some (word, next) ∧
          (m.state.step settings (Wordwise.headed word next)).fault = some error.fault ∧
          error.fault.keyword? = some word.text ∧ error.PointsAt script m.cursor) := by
  obtain ⟨m, final, hreach, hstops, hfinal⟩ :=
    (Wordwise.ends_iff_run settings env script _).2 rfl
  rw [herror] at hstops
  obtain ⟨n, hcursor⟩ := Wordwise.cursor_of_reaches hreach
  refine ⟨m, ⟨hreach, final, hstops, hfinal⟩, ?_⟩
  rcases Wordwise.stops_cases hstops with ⟨hnext, -, hopen⟩ | ⟨word, next, fault, hnext, hstep, hfault, -⟩
  · by_cases hdepth : m.state.frames.depth = 0
    · rw [if_pos hdepth] at hopen
      cases hopen
    · rw [if_neg hdepth] at hopen
      cases hopen
      refine .inl ⟨hnext, rfl, ?_⟩
      show m.cursor.line = _
      rw [Cursor.line_eq_finalLine hnext, hcursor, Cursor.finalLine_skip]
      rfl
  · cases hfault
    have hfails : (m.state.step settings (Wordwise.headed word next)).fault = some fault := by
      rw [hstep]
    -- A word without a text starts a blank statement, which does not fail.
    have hword : word.text ≠ "" := by
      intro hblank
      unfold Wordwise.headed at hfails
      rw [hblank] at hfails
      cases hfails
    refine .inr ⟨word, next, hnext, hfails, keyword?_of_step hfails, ?_⟩
    rw [hcursor] at hnext ⊢
    exact pointsAt_word hnext hword fault

/-- A script with a byte that is no text, a comment that takes an end of a line with it, and a
condition with an operand that does not expand, which is on the next line. -/
def sampleTwoLines : List UInt8 :=
  Utf8.encode "log " ++ [0xC3] ++ Utf8.encode "#\n\n if 1\n== $(q)"

/-- What the script fails with. -/
def sampleTwoLinesError : ScriptError := ⟨.expanding "$(q)" "if" (.unknownRoot "q"), 2⟩

theorem run_sampleTwoLines :
    (run (.plain Regex.engine) (.empty []) sampleTwoLines).error = some sampleTwoLinesError := by
  cbv

theorem sampleTwoLines_error_line :
    (∃ m, Wordwise.FailsAt (.plain Regex.engine) (.empty []) sampleTwoLines sampleTwoLinesError m ∧
      ((m.cursor.next? = none ∧ sampleTwoLinesError.fault = .openBlocks m.state.frames.depth ∧
          sampleTwoLinesError.line = 1 + (Script.uncomment sampleTwoLines).count newline) ∨
        ∃ word next, m.cursor.next? = some (word, next) ∧
          (m.state.step (.plain Regex.engine) (Wordwise.headed word next)).fault
            = some sampleTwoLinesError.fault ∧
          sampleTwoLinesError.fault.keyword? = some word.text ∧
          sampleTwoLinesError.PointsAt sampleTwoLines m.cursor)) ∧
      CommandLine.lineText sampleTwoLines sampleTwoLinesError.line = " if 1" :=
  ⟨error_line run_sampleTwoLines, by cbv⟩

end RuleScript
