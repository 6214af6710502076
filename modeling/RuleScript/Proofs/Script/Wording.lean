/-
  RuleScript.Proofs.Script.Wording
  ────────────────────────────────
  **Where the texts of statements come from.**

  A statement takes its words from the front of those that are left, and takes them as
  they are.  So every text in a statement of a script is a word of the script: nothing
  that is only known when the script runs becomes part of a statement.

  Main results:
    • `readStatement_words_front` — a statement has the first words that are left.
    • `exists_word_of_mem` — every text of a statement is a word of its script.
    • `readStatements_append` — where no statement lacks a word, what follows is read
      on its own.
    • `readStatement_suffix_of_lacking` — a statement that lacks a word takes what follows.
-/
import RuleScript.Proofs.Script.Reading

namespace RuleScript.Script

/-! ## §1. Words of a statement. -/

theorem readChange_words_front (words : List Word) :
    (readChange words).1.words <+: words.map (·.text) := by
  fun_cases readChange words <;> simp_all [Change.words]

theorem readCondition_words_front (link : Link) (words : List Word) :
    (readCondition link words).1.words <+: link.keyword :: words.map (·.text) := by
  fun_cases readCondition link words <;> simp [Statement.words]

/-- **A statement has the first words that are left**, as they are. -/
theorem readStatement_words_front (head : String) (words : List Word) :
    (readStatement head words).1.words <+: head :: words.map (·.text) := by
  cases head_of head with
  | blank => exact ⟨words.map (·.text), rfl⟩
  | otherwise => exact ⟨words.map (·.text), rfl⟩
  | openBlock => exact ⟨words.map (·.text), rfl⟩
  | closeBlock => exact ⟨words.map (·.text), rfl⟩
  | condition link =>
      rw [readStatement_condition]
      exact readCondition_words_front link words
  | declare =>
      show (readDeclaration words).1.words <+: _
      fun_cases readDeclaration words <;> simp [Statement.words]
  | log =>
      show (readLog words).1.words <+: _
      fun_cases readLog words <;> simp [Statement.words]
  | target free =>
      rw [readStatement_target free]
      exact List.cons_prefix_cons.2 ⟨rfl, readChange_words_front words⟩

/-- A change takes a word if there is one. -/
theorem readChange_suffix_tail (words : List Word) : (readChange words).2 <:+ words.tail := by
  -- What is left out is an operator and at most two operands.
  fun_cases readChange words <;>
    first | exact ⟨[], rfl⟩ | exact ⟨[_], rfl⟩ | exact ⟨[_, _], rfl⟩

theorem readChange_suffix (words : List Word) : (readChange words).2 <:+ words :=
  (readChange_suffix_tail words).trans (List.tail_suffix words)

theorem readCondition_suffix (link : Link) (words : List Word) :
    (readCondition link words).2 <:+ words := by
  fun_cases readCondition link words <;>
    first | exact ⟨[], rfl⟩ | exact ⟨[_], rfl⟩ | exact ⟨[_, _], rfl⟩ | exact ⟨[_, _, _], rfl⟩

/-- What a statement leaves is the end of what was left before it. -/
theorem readStatement_suffix (head : String) (words : List Word) :
    (readStatement head words).2 <:+ words := by
  cases head_of head with
  | blank => exact ⟨[], rfl⟩
  | otherwise => exact ⟨[], rfl⟩
  | openBlock => exact ⟨[], rfl⟩
  | closeBlock => exact ⟨[], rfl⟩
  | condition link =>
      rw [readStatement_condition]
      exact readCondition_suffix link words
  | declare =>
      show (readDeclaration words).2 <:+ words
      fun_cases readDeclaration words <;>
        first | exact ⟨[], rfl⟩ | exact ⟨[_], rfl⟩ | exact ⟨[_, _], rfl⟩
  | log =>
      show (readLog words).2 <:+ words
      fun_cases readLog words <;> first | exact ⟨[], rfl⟩ | exact ⟨[_], rfl⟩
  | target free =>
      rw [readStatement_target free]
      exact readChange_suffix words

/-- **Every text of a statement is a word of its script.** -/
theorem exists_word_of_mem {words : List Word} {item : Located}
    (hitem : item ∈ readStatements words) {text : String} (htext : text ∈ item.statement.words) :
    ∃ word ∈ words, word.text = text := by
  fun_induction readStatements words with
  | case1 => cases hitem
  | case2 word words step ih =>
      rcases List.mem_cons.1 hitem with rfl | hrest
      · have hmem := (readStatement_words_front word.text words).subset htext
        rw [← List.map_cons] at hmem
        exact List.mem_map.1 hmem
      · obtain ⟨found, hfound, htext⟩ := ih hrest
        have hmem := (readStatement_suffix word.text words).subset hfound
        exact ⟨found, List.mem_cons_of_mem _ hmem, htext⟩

/-! ## §2. Words that follow. -/

theorem readChange_append {words : List Word}
    (h : ∀ missing, (readChange words).1 ≠ .incomplete missing) (more : List Word) :
    readChange (words ++ more) = ((readChange words).1, (readChange words).2 ++ more) := by
  revert h
  fun_cases readChange words <;> intro h
  case case2 operator ha value rest => exact readChange_assign _ ha
  case case4 operator rest ha hu => exact readChange_unset _ hu
  case case5 operator ha hu hr pattern replacement rest => exact readChange_replace _ hr
  case case8 operator rest ha hu hr => exact readChange_unknown _ ha hu hr
  all_goals exact absurd rfl (h _)

/-- **A statement that lacks nothing is read alike**, whatever follows its words. -/
theorem readStatement_append {head : String} {words : List Word}
    (h : (readStatement head words).1.lacking = false) (more : List Word) :
    readStatement head (words ++ more)
      = ((readStatement head words).1, (readStatement head words).2 ++ more) := by
  cases head_of head with
  | blank => rfl
  | otherwise => rfl
  | openBlock => rfl
  | closeBlock => rfl
  | condition link =>
      rw [readStatement_condition] at h ⊢
      rw [readStatement_condition]
      revert h
      fun_cases readCondition link words <;> intro h <;> first | rfl | cases h
  | declare =>
      revert h
      show (readDeclaration words).1.lacking = false → readDeclaration (words ++ more) = _
      fun_cases readDeclaration words <;> intro h <;> first | rfl | cases h
  | log =>
      revert h
      show (readLog words).1.lacking = false → readLog (words ++ more) = _
      fun_cases readLog words <;> intro h <;> first | rfl | cases h
  | target free =>
      rw [readStatement_target free] at h ⊢
      rw [readStatement_target free, readChange_append]
      intro missing hm
      rw [hm] at h
      cases h

/-- **Statements that lack nothing are read alike**, whatever follows their words. -/
theorem readStatements_append {words : List Word}
    (h : ∀ item ∈ readStatements words, item.statement.lacking = false) (more : List Word) :
    readStatements (words ++ more) = readStatements words ++ readStatements more := by
  fun_induction readStatements words with
  | case1 => rfl
  | case2 word words step ih =>
      have hfirst : step.1.lacking = false := h ⟨word.line, step.1⟩ List.mem_cons_self
      rw [List.cons_append, readStatements_cons, readStatement_append hfirst]
      rw [List.cons_append, ih fun item hitem => h item (List.mem_cons_of_mem _ hitem)]

/-! ## §3. Words that are lacking. -/

/-- A change that lacks a word takes the next one. -/
theorem readChange_suffix_of_incomplete {words : List Word} {missing : Operand}
    (h : (readChange words).1 = .incomplete missing) (next : Word) (more : List Word) :
    (readChange (words ++ next :: more)).2 <:+ more := by
  revert h
  fun_cases readChange words <;> intro h
  -- The word is the operator, or the first or second operand of one.
  case case1 => exact readChange_suffix_tail (next :: more)
  case case3 operator ha =>
      have hread : readChange ([operator] ++ next :: more) = (.assign next.text, more) :=
        readChange_assign (next :: more) ha
      simp only [hread, List.suffix_refl]
  case case6 operator ha hu hr pattern =>
      have hread : readChange ([operator, pattern] ++ next :: more)
          = (.replace pattern.text next.text, more) :=
        readChange_replace (pattern :: next :: more) hr
      simp only [hread, List.suffix_refl]
  case case7 operator ha hu hr =>
      rw [List.singleton_append, readChange_replace _ hr]
      cases more with
      | nil => exact List.suffix_refl []
      | cons replacement rest => exact List.suffix_cons replacement rest
  all_goals cases h

/-- **A statement that lacks a word takes the next one**, whatever it is. -/
theorem readStatement_suffix_of_lacking {head : String} {words : List Word}
    (h : (readStatement head words).1.lacking = true) (next : Word) (more : List Word) :
    (readStatement head (words ++ next :: more)).2 <:+ more := by
  cases head_of head with
  | blank => cases h
  | otherwise => cases h
  | openBlock => cases h
  | closeBlock => cases h
  | condition link =>
      rw [readStatement_condition] at h ⊢
      rcases words with _ | ⟨left, _ | ⟨operator, _ | ⟨right, rest⟩⟩⟩
      · rcases more with _ | ⟨operator, _ | ⟨right, rest⟩⟩
        · exact List.suffix_refl []
        · exact List.nil_suffix
        · exact ⟨[operator, right], rfl⟩
      · cases more with
        | nil => exact List.suffix_refl []
        | cons right rest => exact List.suffix_cons right rest
      · exact List.suffix_refl more
      · cases h
  | declare =>
      rcases words with _ | ⟨name, _ | ⟨value, rest⟩⟩
      · cases more with
        | nil => exact List.suffix_refl []
        | cons value rest => exact List.suffix_cons value rest
      · exact List.suffix_refl more
      · cases h
  | log =>
      cases words with
      | nil => exact List.suffix_refl more
      | cons message rest => cases h
  | target free =>
      rw [readStatement_target free] at h ⊢
      cases hchange : (readChange words).1 with
      | incomplete missing => exact readChange_suffix_of_incomplete hchange next more
      | assign | unset | replace | unknown =>
          rw [hchange] at h
          cases h

end RuleScript.Script
