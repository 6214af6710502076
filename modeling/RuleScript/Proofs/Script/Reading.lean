/-
  RuleScript.Proofs.Script.Reading
  ────────────────────────────────
  **How statements are read from words.**

  The first word of a statement says what it is: seven words are reserved, and the
  empty one stands for nothing; any other word is the target of a change.  What
  follows is a fixed number of operands, so a statement that has them all leaves
  exactly what comes after its words.

  Main results:
    • `head_of` — what a first word can be.
    • `readStatement_snd` — what a statement leaves.
    • `readStatements_words` — the words of a complete statement are read as that
      statement, whatever follows.
-/
import RuleScript.Script.Statement

namespace RuleScript.Script

/-! ## §1. First words. -/

/-- The words that mean something else where a statement starts. -/
def reserved : List String := ["", "if", "elseif", "else", "\x7b", "\x7d", "var", "log"]

/-- What the first word of a statement can be. -/
inductive Head : String → Prop
  | blank : Head ""
  | condition (link : Link) : Head link.keyword
  | otherwise : Head "else"
  | openBlock : Head "\x7b"
  | closeBlock : Head "\x7d"
  | declare : Head "var"
  | log : Head "log"
  | target {text : String} (free : text ∉ reserved) : Head text

theorem head_of (text : String) : Head text := by
  by_cases h : text ∈ reserved
  · simp only [reserved, List.mem_cons, List.not_mem_nil, or_false] at h
    rcases h with rfl | rfl | rfl | rfl | rfl | rfl | rfl | rfl
    · exact .blank
    · exact .condition .opening
    · exact .condition .following
    · exact .otherwise
    · exact .openBlock
    · exact .closeBlock
    · exact .declare
    · exact .log
  · exact .target h

/-- A change is what a word starts that is not reserved. -/
theorem readStatement_target {target : String} (h : target ∉ reserved) (words : List Word) :
    readStatement target words
      = (.change target (readChange words).1, (readChange words).2) := by
  simp only [reserved, List.mem_cons, List.not_mem_nil, or_false, not_or] at h
  obtain ⟨h0, h1, h2, h3, h4, h5, h6, h7⟩ := h
  unfold readStatement
  rw [if_neg h0, if_neg h1, if_neg h2, if_neg h3, if_neg h4, if_neg h5, if_neg h6, if_neg h7]

theorem readStatement_condition (link : Link) (words : List Word) :
    readStatement link.keyword words = readCondition link words := by
  cases link <;> rfl

section
variable {operator : Word} (words : List Word)

theorem readChange_assign (h : operator.text = "=") :
    readChange (operator :: words) =
      match words with
      | value :: rest => (.assign value.text, rest)
      | [] => (.incomplete ⟨"value", "2nd"⟩, []) :=
  if_pos h

theorem readChange_unset (h : operator.text = "unset") :
    readChange (operator :: words) = (.unset, words) := by
  have hassign : operator.text ≠ "=" := by
    rw [h]
    decide
  exact (if_neg hassign).trans (if_pos h)

theorem readChange_replace (h : operator.text = "replace_regex") :
    readChange (operator :: words) =
      match words with
      | pattern :: replacement :: rest => (.replace pattern.text replacement.text, rest)
      | [_] => (.incomplete ⟨"replacement", "3rd"⟩, [])
      | [] => (.incomplete ⟨"pattern", "2nd"⟩, []) := by
  have hassign : operator.text ≠ "=" := by
    rw [h]
    decide
  have hunset : operator.text ≠ "unset" := by
    rw [h]
    decide
  exact (if_neg hassign).trans ((if_neg hunset).trans (if_pos h))

theorem readChange_unknown (hassign : operator.text ≠ "=") (hunset : operator.text ≠ "unset")
    (hreplace : operator.text ≠ "replace_regex") :
    readChange (operator :: words) = (.unknown operator.text, words) :=
  (if_neg hassign).trans ((if_neg hunset).trans (if_neg hreplace))

end

/-! ## §2. The words of a statement. -/

/-- The words that a change is written with, after its target. -/
def Change.words : Change → List String
  | .assign value => ["=", value]
  | .unset => ["unset"]
  | .replace pattern replacement => ["replace_regex", pattern, replacement]
  | .unknown operator => [operator]
  | .incomplete _ => []

/-- The words that a statement is written with. -/
def Statement.words : Statement → List String
  | .blank => [""]
  | .condition link left operator right => [link.keyword, left, operator, right]
  | .otherwise => ["else"]
  | .openBlock => ["\x7b"]
  | .closeBlock => ["\x7d"]
  | .declare name value => ["var", name, value]
  | .log message => ["log", message]
  | .change target step => target :: step.words
  | .incomplete keyword _ => [keyword]

/-- The script ends before the statement does. -/
def Statement.lacking : Statement → Bool
  | .incomplete _ _ => true
  | .change _ (.incomplete _) => true
  | _ => false

theorem readChange_snd {words : List Word}
    (h : ∀ missing, (readChange words).1 ≠ .incomplete missing) :
    (readChange words).2 = words.drop (readChange words).1.words.length := by
  revert h
  -- Wherever an operand is missing the change is incomplete; elsewhere both sides compute.
  fun_cases readChange words <;> intro h <;> first | rfl | exact absurd rfl (h _)

/-- **A statement that lacks nothing leaves what comes after its words.** -/
theorem readStatement_snd {head : String} {words : List Word}
    (h : (readStatement head words).1.lacking = false) :
    (readStatement head words).2
      = words.drop (readStatement head words).1.words.tail.length := by
  cases head_of head with
  | blank => rfl
  | otherwise => rfl
  | openBlock => rfl
  | closeBlock => rfl
  -- From here on operands are missing only at the end of the script.
  | condition link =>
      rw [readStatement_condition] at h ⊢
      fun_cases readCondition link words <;> first | rfl | cases h
  | declare =>
      have hread : readStatement "var" words = readDeclaration words := rfl
      rw [hread] at h ⊢
      fun_cases readDeclaration words <;> first | rfl | cases h
  | log =>
      have hread : readStatement "log" words = readLog words := rfl
      rw [hread]
      fun_cases readLog words <;> rfl
  | target free =>
      rw [readStatement_target free] at h ⊢
      refine readChange_snd ?_
      intro missing hm
      rw [hm] at h
      cases h

/-! ## §3. Lists of statements. -/

theorem readStatements_cons (word : Word) (words : List Word) :
    readStatements (word :: words)
      = ⟨word.line, (readStatement word.text words).1⟩
          :: readStatements (readStatement word.text words).2 := by
  rw [readStatements]

/-- The statement has all its words, and its target is no reserved word. -/
def Statement.complete : Statement → Bool
  | .blank => false
  | .change target step =>
      !reserved.contains target &&
        match step with
        | .assign _ | .unset | .replace _ _ => true
        | .unknown _ | .incomplete _ => false
  | .incomplete _ _ => false
  | _ => true

/-- **The words of a complete statement are read as that statement.** -/
theorem readStatements_words {statement : Statement} (h : statement.complete = true) (n : Nat)
    (more : List Word) :
    readStatements (statement.words.map (⟨·, n⟩) ++ more)
      = ⟨n, statement⟩ :: readStatements more := by
  cases statement with
  | blank => cases h
  | incomplete keyword missing => cases h
  | condition link left operator right =>
      refine (readStatements_cons ⟨link.keyword, n⟩ _).trans ?_
      rw [readStatement_condition]
      rfl
  | otherwise => exact (readStatements_cons ⟨"else", n⟩ more).trans rfl
  | openBlock => exact (readStatements_cons ⟨"\x7b", n⟩ more).trans rfl
  | closeBlock => exact (readStatements_cons ⟨"\x7d", n⟩ more).trans rfl
  | declare name value => exact (readStatements_cons ⟨"var", n⟩ _).trans rfl
  | log message => exact (readStatements_cons ⟨"log", n⟩ _).trans rfl
  | change target step =>
      simp only [Statement.complete, Bool.and_eq_true, Bool.not_eq_true', List.contains_eq_mem,
        decide_eq_false_iff_not] at h
      obtain ⟨htarget, hstep⟩ := h
      -- The target is no reserved word, so it is read as a target.
      refine (readStatements_cons ⟨target, n⟩ _).trans ?_
      rw [readStatement_target htarget]
      cases step with
      | assign value => rfl
      | unset => rfl
      | replace pattern replacement => rfl
      | unknown operator => cases hstep
      | incomplete missing => cases hstep

end RuleScript.Script
