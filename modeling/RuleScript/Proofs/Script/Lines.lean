/-
  RuleScript.Proofs.Script.Lines
  ──────────────────────────────
  **Words and the lines they are on.**

  The end of a line ends the word before it, quoted or not, and nothing is carried over
  into the next line but the count of lines.  So what stands on one line has no say in how
  the others are read, however its quotes and backslashes are set, and the line of a word is
  told by counting the ends of lines before it.

  Main results:
    • `readChunk?_cons_cases` — what one byte does to a word.
    • `words_append_newline` — the words behind an end of a line.
    • `words_by_line` — lines are read on their own, and counted.
-/
import RuleScript.Proofs.Script.Spelling
import RuleScript.Proofs.Text.Utf8

namespace RuleScript.Script

/-! ## §1. One byte, and one word. -/

/-- **What one byte does to a word**: it belongs to the word or is left out of it, and it is
no end of a line; or it ends the word.  What comes behind it has no say in that. -/
theorem readChunk?_cons_cases (quoted : Bool) (seen : List UInt8) (b : UInt8) :
    (b ≠ newline ∧ ∃ quoted' seen', seen' ⊆ b :: seen ∧
      ∀ rest, readChunk? quoted seen (b :: rest) = readChunk? quoted' seen' rest) ∨
    ∀ rest, readChunk? quoted seen (b :: rest) = some ⟨seen.reverse, b == newline, rest⟩ := by
  by_cases hline : b = newline
  · subst hline
    exact .inr (readChunk?_newline quoted seen)
  have hends : (b == newline) = false := beq_eq_false_iff_ne.2 hline
  by_cases hblank : quoted = false ∧ isBlank b = true
  · obtain ⟨rfl, hblank⟩ := hblank
    cases seen with
    | nil => exact .inl ⟨hline, false, [], List.nil_subset _, readChunk?_blank hblank []⟩
    | cons last before =>
        rw [hends]
        exact .inr (readChunk?_blank hblank (last :: before))
  have hkeep : (!quoted && isBlank b) = false := by
    cases quoted <;> simp_all
  by_cases hquote : b = quote
  · subst hquote
    cases seen with
    | nil =>
        cases quoted with
        | false => exact .inl ⟨hline, true, [], List.nil_subset _, readChunk?_opening⟩
        | true => exact .inr (readChunk?_closing (by decide))
    | cons last before =>
        by_cases hlast : last = backslash
        · subst hlast
          refine .inl ⟨hline, quoted, quote :: before, ?_, readChunk?_escapedQuote quoted before⟩
          exact List.cons_subset_cons _ (List.subset_cons_self _ _)
        · exact .inr (readChunk?_endingQuote quoted hlast before)
  · refine .inl ⟨hline, quoted, b :: seen, List.Subset.refl _, ?_⟩
    exact readChunk?_plain hline hkeep hquote seen

/-- Before an end of a line, a word ends with it or earlier, and what comes behind that end
of the line has no say in it. -/
theorem readChunk?_upto_newline (quoted : Bool) (seen a : List UInt8) :
    (∃ bytes, ∀ b, readChunk? quoted seen (a ++ newline :: b) = some ⟨bytes, true, b⟩) ∨
    ∃ bytes endsLine rest, ∀ b,
      readChunk? quoted seen (a ++ newline :: b) = some ⟨bytes, endsLine, rest ++ newline :: b⟩ := by
  induction a generalizing quoted seen with
  | nil => exact .inl ⟨seen.reverse, readChunk?_newline quoted seen⟩
  | cons c a ih =>
      rcases readChunk?_cons_cases quoted seen c with ⟨-, quoted', seen', -, hgoes⟩ | hends
      · simp only [List.cons_append, hgoes]
        exact ih quoted' seen'
      · exact .inr ⟨seen.reverse, c == newline, a, fun b => hends (a ++ newline :: b)⟩

/-- The bytes that a chunk takes off a script: an end of a line among them is the last one,
and none of them gets into the word. -/
theorem readChunk?_taken {quoted : Bool} {seen s : List UInt8} {k : Chunk}
    (hseen : newline ∉ seen) (h : readChunk? quoted seen s = some k) :
    newline ∉ k.bytes ∧ ∃ taken, s = taken ++ k.rest ∧ newline ∉ taken.dropLast := by
  induction s generalizing quoted seen with
  | nil =>
      simp only [readChunk?] at h
      split at h
      · cases h
      · cases h
        exact ⟨mt List.mem_reverse.1 hseen, [], rfl, List.not_mem_nil⟩
  | cons b rest ih =>
      rcases readChunk?_cons_cases quoted seen b with ⟨hb, quoted', seen', hsub, hgoes⟩ | hends
      · have hseen' : newline ∉ seen' := by
          intro hmem
          rcases List.mem_cons.1 (hsub hmem) with he | hmem
          · exact hb he.symm
          · exact hseen hmem
        rw [hgoes] at h
        obtain ⟨hbytes, taken, rfl, htaken⟩ := ih hseen' h
        refine ⟨hbytes, b :: taken, rfl, ?_⟩
        cases taken with
        | nil => exact List.not_mem_nil
        | cons c taken =>
            rw [List.dropLast_cons_cons, List.mem_cons, not_or]
            exact ⟨Ne.symm hb, htaken⟩
      · rw [hends] at h
        cases h
        exact ⟨mt List.mem_reverse.1 hseen, [b], rfl, List.not_mem_nil⟩

/-! ## §2. Words. -/

/-- The same word on a line further down. -/
def Word.later (w : Word) (n : Nat) : Word := { w with line := w.line + n }

/-- The same place on a line further down. -/
def Cursor.later (c : Cursor) (n : Nat) : Cursor := { c with line := c.line + n }

/-- **The count of lines is carried through**, and nothing hangs on it. -/
theorem Cursor.next?_later (c : Cursor) (n : Nat) :
    (c.later n).next? = c.next?.map fun step => (step.1.later n, step.2.later n) := by
  obtain ⟨s, line⟩ := c
  unfold Cursor.next? Cursor.later
  cases hk : readChunk? false [] s with
  | none => rfl
  | some k =>
      simp only [Option.map_some, Option.some.injEq, Prod.mk.injEq]
      refine ⟨rfl, ?_⟩
      cases k.endsLine with
      | true => exact congrArg (Cursor.mk k.rest) (Nat.add_right_comm line n 1)
      | false => rfl

theorem Cursor.words_later (c : Cursor) (n : Nat) :
    (c.later n).words = c.words.map (·.later n) := by
  fun_induction Cursor.words c with
  | case1 c hn =>
      refine Cursor.words_of_next?_eq_none ?_
      rw [Cursor.next?_later, hn]
      rfl
  | case2 c w d hn ih =>
      have hnext : (c.later n).next? = some (w.later n, d.later n) := by
        rw [Cursor.next?_later, hn]
        rfl
      rw [Cursor.words_of_next? hnext, ih, List.map_cons]

/-- **The words behind an end of a line** are those of what stands there, and the words in
front of it are those of what stands in front. -/
theorem words_append_newline (a b : List UInt8) (n : Nat) :
    Cursor.words ⟨a ++ newline :: b, n⟩
      = Cursor.words ⟨a ++ [newline], n⟩ ++ Cursor.words ⟨b, n + (1 + a.count newline)⟩ := by
  -- The first word is taken off, until that takes the end of the line.
  induction hlength : a.length using Nat.strongRecOn generalizing a n with
  | ind length ih =>
      subst hlength
      rcases readChunk?_upto_newline false [] a with ⟨bytes, hread⟩ | ⟨bytes, endsLine, rest, hread⟩
      · have hcount := count_newline_of_readChunk? (hread [])
        rw [List.count_append, List.count_singleton_self, if_pos rfl] at hcount
        have hzero : a.count newline = 0 := Nat.add_right_cancel (hcount.trans (Nat.zero_add 1).symm)
        rw [Cursor.words_of_next? (Cursor.next?_of_readChunk? (hread b) n),
          Cursor.words_of_next? (Cursor.next?_of_readChunk? (hread []) n), words_nil, hzero]
        rfl
      · have hlt := length_rest_lt_of_readChunk? (hread [])
        have hcount := count_newline_of_readChunk? (hread [])
        simp only [List.length_append, List.length_singleton, List.count_append,
          List.count_singleton_self] at hlt hcount
        rw [Cursor.words_of_next? (Cursor.next?_of_readChunk? (hread b) n),
          Cursor.words_of_next? (Cursor.next?_of_readChunk? (hread []) n), List.cons_append,
          ih rest.length (by omega) rest _ rfl]
        have hline : (if endsLine = true then n + 1 else n) + (1 + rest.count newline)
            = n + (1 + a.count newline) := by
          cases endsLine <;> simp only [Bool.false_eq_true, if_false, if_true] at hcount ⊢ <;> omega
        rw [hline]

/-! ## §3. Where words stand. -/

/-- The words of the script, and the places that they are taken from. -/
theorem Cursor.next?_skip {c : Cursor} {i : Nat} {w : Word} (h : c.words[i]? = some w) :
    (c.skip i).next? = some (w, c.skip (i + 1)) := by
  induction i generalizing c with
  | zero =>
      rcases c.next?_cases with ⟨-, hwords⟩ | ⟨v, d, hn, hwords⟩
      · rw [hwords] at h
        cases h
      · rw [hwords] at h
        cases h
        rw [Cursor.skip_of_next? hn]
        exact hn
  | succ i ih =>
      rcases c.next?_cases with ⟨-, hwords⟩ | ⟨v, d, hn, hwords⟩
      · rw [hwords] at h
        cases h
      · rw [hwords, List.getElem?_cons_succ] at h
        rw [Cursor.skip_of_next? hn, Cursor.skip_of_next? hn]
        exact ih h

/-- A word is taken off the front of what is left, and an end of a line with it at most. -/
theorem Cursor.taken_of_next? {c d : Cursor} {w : Word} (h : c.next? = some (w, d)) :
    w.line = c.line ∧ '\n' ∉ w.text.toList ∧
      ∃ taken, c.rest = taken ++ d.rest ∧ taken ≠ [] ∧ newline ∉ taken.dropLast := by
  have hlt := Cursor.length_rest_lt_of_next? h
  unfold Cursor.next? at h
  split at h
  · cases h
  · next k hk =>
    cases h
    obtain ⟨hbytes, taken, htaken, hlast⟩ := readChunk?_taken List.not_mem_nil hk
    refine ⟨rfl, ?_, taken, htaken, ?_, hlast⟩
    · show '\n' ∉ (String.ofList (Utf8.decode k.bytes)).toList
      rw [String.toList_ofList]
      exact fun hmem => hbytes (Utf8.byte_mem_of_mem_decode (by decide) (by decide) hmem)
    · rintro rfl
      rw [htaken] at hlt
      exact absurd hlt (Nat.lt_irrefl _)

/-- What has been passed is in front of what is left. -/
theorem Cursor.rest_skip_suffix (n : Nat) (c : Cursor) : (c.skip n).rest <:+ c.rest := by
  induction n generalizing c with
  | zero => exact List.suffix_refl _
  | succ n ih =>
      rcases c.next?_cases with ⟨hn, -⟩ | ⟨w, d, hn, -⟩
      · have hskip : c.skip (n + 1) = c := by
          rw [Cursor.skip, hn]
        exact ⟨[], congrArg Cursor.rest hskip⟩
      · obtain ⟨-, -, taken, htaken, -⟩ := Cursor.taken_of_next? hn
        rw [Cursor.skip_of_next? hn]
        exact (ih d).trans ⟨taken, htaken.symm⟩

/-- **The line of a place** is told by the ends of lines in front of it. -/
theorem line_skip {s before : List UInt8} {n : Nat}
    (h : s = before ++ ((Cursor.start s).skip n).rest) :
    ((Cursor.start s).skip n).line = 1 + before.count newline := by
  have hfinal := Cursor.finalLine_skip n (Cursor.start s)
  have hcount := congrArg (List.count newline) h
  unfold Cursor.finalLine at hfinal
  rw [List.count_append] at hcount
  have hstart : (Cursor.start s).line = 1 := rfl
  have hrest : (Cursor.start s).rest = s := rfl
  rw [hstart, hrest] at hfinal
  omega

/-- The place of the first byte of the next word. -/
def Cursor.atWord (c : Cursor) : Cursor := { c with rest := c.rest.dropWhile isBlank }

/-- From there, the same word is read. -/
theorem Cursor.next?_atWord (c : Cursor) : c.atWord.next? = c.next? := by
  obtain ⟨rest, line⟩ := c
  unfold Cursor.atWord
  induction rest with
  | nil => rfl
  | cons b rest ih =>
      by_cases hb : isBlank b = true
      · simp only [List.dropWhile_cons_of_pos hb]
        rw [ih, Cursor.next?_blank hb]
      · simp only [List.dropWhile_cons_of_neg hb]

/-- There are only blanks in front of the next word. -/
theorem Cursor.count_newline_atWord (c : Cursor) :
    ∃ blanks, c.rest = blanks ++ c.atWord.rest ∧ blanks.count newline = 0 := by
  refine ⟨c.rest.takeWhile isBlank, List.takeWhile_append_dropWhile.symm, ?_⟩
  rw [List.count_eq_zero]
  intro hmem
  exact absurd (List.all_eq_true.1 List.all_takeWhile newline hmem) (by decide)

/-- A word that is not empty has a first byte, and that is on its line. -/
theorem Cursor.atWord_cons {c d : Cursor} {w : Word} (h : c.next? = some (w, d))
    (hw : w.text ≠ "") : ∃ b rest, c.atWord.rest = b :: rest ∧ b ≠ newline := by
  rw [← Cursor.next?_atWord] at h
  cases hrest : c.atWord.rest with
  | nil =>
      unfold Cursor.next? at h
      rw [hrest] at h
      cases h
  | cons b rest =>
      refine ⟨b, rest, rfl, ?_⟩
      rintro rfl
      have hread : readChunk? false [] c.atWord.rest = some ⟨[], true, rest⟩ := by
        rw [hrest]
        exact readChunk?_newline false [] rest
      have hnext := Cursor.next?_of_readChunk? hread c.atWord.line
      cases hnext.symm.trans h
      exact hw Utf8.text_nil

/-- Where all words have been taken, no word is left. -/
theorem next?_skip_of_length_le {c : Cursor} {n : Nat} (h : c.words.length ≤ n) :
    (c.skip n).next? = none := by
  rcases (c.skip n).next?_cases with ⟨hn, -⟩ | ⟨w, d, -, hwords⟩
  · exact hn
  · rw [Cursor.words_skip, List.drop_eq_nil_of_le h] at hwords
    cases hwords

/-- **Lines are read on their own, and counted.**  The words of a text with an end of a line
in it are those up to there, and those of what comes behind, so many lines further down.
Every word is taken, with at most one end of a line as its last byte, from a place that as
many ends of lines stand in front of as its line tells; it has none in it; and where the
words have run out, the line is that of the end. -/
theorem words_by_line :
    (∀ a b : List UInt8, (Cursor.start (a ++ newline :: b)).words
      = (Cursor.start (a ++ [newline])).words
        ++ (Cursor.start b).words.map (·.later (1 + a.count newline))) ∧
    ∀ s : List UInt8,
      (∀ i w, (Cursor.start s).words[i]? = some w →
        ∃ before taken next, s = before ++ taken ++ next.rest ∧
          (Cursor.start s).skip i = ⟨taken ++ next.rest, w.line⟩ ∧
          ((Cursor.start s).skip i).next? = some (w, next) ∧
          taken ≠ [] ∧ newline ∉ taken.dropLast ∧ w.line = 1 + before.count newline) ∧
      (∀ w ∈ (Cursor.start s).words, '\n' ∉ w.text.toList) ∧
      ∀ n, (Cursor.start s).words.length ≤ n → ((Cursor.start s).skip n).next? = none ∧
        ((Cursor.start s).skip n).line = lastLine s := by
  refine ⟨?_, fun s => ⟨?_, ?_, ?_⟩⟩
  · intro a b
    rw [← Cursor.words_later]
    exact words_append_newline a b 1
  · intro i w hw
    have hnext := Cursor.next?_skip hw
    obtain ⟨hline, -, taken, htaken, hne, hlast⟩ := Cursor.taken_of_next? hnext
    obtain ⟨before, hbefore⟩ := Cursor.rest_skip_suffix i (Cursor.start s)
    refine ⟨before, taken, _, ?_, ?_, hnext, hne, hlast, ?_⟩
    · rw [List.append_assoc, ← htaken]
      exact hbefore.symm
    · rw [← htaken, hline]
    · rw [hline]
      exact line_skip hbefore.symm
  · intro w hw
    obtain ⟨i, hi⟩ := List.mem_iff_getElem?.1 hw
    exact (Cursor.taken_of_next? (Cursor.next?_skip hi)).2.1
  · intro n hn
    have hnone := next?_skip_of_length_le hn
    refine ⟨hnone, ?_⟩
    rw [Cursor.line_eq_finalLine hnone, Cursor.finalLine_skip]
    rfl

end RuleScript.Script
