/-
  RuleScript.Proofs.Script.Cursor
  ───────────────────────────────
  **Taking words off a script one at a time.**

  The list of all words and the cursor that gives them one by one are two views
  of the same text.  A cursor also knows the line it is on; counting the ends of
  lines that are still ahead gives the line the script ends on, and no word
  changes that sum.

  Main results:
    • `Cursor.words_of_next?` — the next word is the head of the list of words.
    • `Cursor.words_skip` — skipping words drops them from the list.
    • `Cursor.finalLine_of_next?` — taking a word keeps the line of the end.
    • `Cursor.line_eq_finalLine` — where no word is left, that line is reached.
-/
import RuleScript.Script.Word

namespace RuleScript.Script

/-! ## §1. The list of words. -/

/-- The next word is read as one chunk. -/
theorem Cursor.next?_of_readChunk? {s : List UInt8} {k : Chunk}
    (h : readChunk? false [] s = some k) (n : Nat) :
    Cursor.next? ⟨s, n⟩
      = some (⟨Utf8.text k.bytes, n⟩, ⟨k.rest, if k.endsLine then n + 1 else n⟩) := by
  unfold Cursor.next?
  rw [h]

theorem Cursor.words_of_next? {c d : Cursor} {w : Word} (h : c.next? = some (w, d)) :
    c.words = w :: d.words := by
  rw [Cursor.words]
  split
  · next hn => rw [h] at hn; cases hn
  · next hn => rw [h] at hn; cases hn; rfl

theorem Cursor.words_of_next?_eq_none {c : Cursor} (h : c.next? = none) : c.words = [] := by
  rw [Cursor.words]
  split
  · rfl
  · next hn => rw [h] at hn; cases hn

/-- Either no word is left, or there is a next one. -/
theorem Cursor.next?_cases (c : Cursor) :
    (c.next? = none ∧ c.words = []) ∨ ∃ w d, c.next? = some (w, d) ∧ c.words = w :: d.words := by
  cases h : c.next? with
  | none => exact .inl ⟨rfl, Cursor.words_of_next?_eq_none h⟩
  | some step =>
      obtain ⟨w, d⟩ := step
      exact .inr ⟨w, d, rfl, Cursor.words_of_next? h⟩

/-! ## §2. Taking several words. -/

/-- The place after the next `n` words. -/
def Cursor.skip : Nat → Cursor → Cursor
  | 0, c => c
  | n + 1, c =>
    match c.next? with
    | none => c
    | some (_, d) => d.skip n

theorem Cursor.skip_of_next? {c d : Cursor} {w : Word} (h : c.next? = some (w, d)) (n : Nat) :
    c.skip (n + 1) = d.skip n := by
  rw [Cursor.skip, h]

theorem Cursor.words_skip (n : Nat) (c : Cursor) : (c.skip n).words = c.words.drop n := by
  induction n generalizing c with
  | zero => rfl
  | succ n ih =>
      rcases c.next?_cases with ⟨hn, hwords⟩ | ⟨w, d, hn, hwords⟩
      -- Where words are missing, the cursor stays and the list is empty.
      · rw [Cursor.skip, hn, hwords]
        exact List.drop_nil.symm
      · rw [Cursor.skip_of_next? hn, hwords, List.drop_succ_cons]
        exact ih d

theorem Cursor.skip_of_next?_eq_none {c : Cursor} (h : c.next? = none) (n : Nat) :
    c.skip n = c := by
  cases n with
  | zero => rfl
  | succ n => rw [Cursor.skip, h]

theorem Cursor.skip_skip (c : Cursor) (n k : Nat) : (c.skip n).skip k = c.skip (n + k) := by
  induction n generalizing c with
  | zero => rw [Nat.zero_add, Cursor.skip]
  | succ n ih =>
      cases hn : c.next? with
      | none => rw [skip_of_next?_eq_none hn, skip_of_next?_eq_none hn, skip_of_next?_eq_none hn]
      | some step => rw [Nat.add_right_comm, skip_of_next? hn, skip_of_next? hn, ih]

theorem Cursor.length_rest_skip_le (n : Nat) (c : Cursor) :
    (c.skip n).rest.length ≤ c.rest.length := by
  induction n generalizing c with
  | zero => exact Nat.le_refl _
  | succ n ih =>
      cases hn : c.next? with
      | none =>
          refine Nat.le_of_eq ?_
          rw [Cursor.skip, hn]
      | some step =>
          rw [Cursor.skip_of_next? hn]
          exact Nat.le_trans (ih _) (Nat.le_of_lt (Cursor.length_rest_lt_of_next? hn))

/-! ## §3. Lines. -/

/-- What a chunk took off a script has an end of a line in it if that ended the
chunk, and none else. -/
theorem count_newline_of_readChunk? {quoted : Bool} {seen s : List UInt8} {k : Chunk}
    (h : readChunk? quoted seen s = some k) :
    s.count newline = (if k.endsLine then 1 else 0) + k.rest.count newline := by
  induction s generalizing quoted seen with
  | nil =>
      simp only [readChunk?] at h
      split at h
      · cases h
      · cases h; rfl
  | cons b rest ih =>
      rw [readChunk?.eq_def] at h
      simp only at h
      by_cases hb : b = newline
      · subst hb
        rw [if_pos rfl] at h
        cases h
        rw [List.count_cons_self, if_pos rfl, Nat.add_comm]
      · rw [if_neg hb] at h
        rw [List.count_cons_of_ne hb]
        -- Any other byte is skipped, kept or dropped, and none of that counts.
        have stop {a : List UInt8} (he : some (⟨a, false, rest⟩ : Chunk) = some k) :
            rest.count newline = (if k.endsLine then 1 else 0) + k.rest.count newline := by
          cases he
          rw [if_neg Bool.false_ne_true, Nat.zero_add]
        repeat' split at h
        all_goals first
          | exact ih h
          | exact stop h

theorem count_newline_of_readChunk?_eq_none {quoted : Bool} {seen s : List UInt8}
    (h : readChunk? quoted seen s = none) : s.count newline = 0 := by
  induction s generalizing quoted seen with
  | nil => rfl
  | cons b rest ih =>
      rw [readChunk?.eq_def] at h
      simp only at h
      -- The end of a line would have ended a chunk, so there is none.
      by_cases hb : b = newline
      · rw [if_pos hb] at h; cases h
      · rw [if_neg hb] at h
        rw [List.count_cons_of_ne hb]
        repeat' split at h
        all_goals first
          | exact ih h
          | cases h

/-- The line that the script ends on, seen from a place in it. -/
def Cursor.finalLine (c : Cursor) : Nat := c.line + c.rest.count newline

theorem Cursor.finalLine_of_next? {c d : Cursor} {w : Word} (h : c.next? = some (w, d)) :
    d.finalLine = c.finalLine := by
  unfold Cursor.next? at h
  split at h
  · cases h
  · next k hk =>
    cases h
    have hcount := count_newline_of_readChunk? hk
    unfold Cursor.finalLine
    rw [hcount]
    cases k.endsLine with
    | true =>
        simp only [if_true]
        omega
    | false =>
        simp only [Bool.false_eq_true, if_false]
        omega

theorem Cursor.finalLine_skip (n : Nat) (c : Cursor) : (c.skip n).finalLine = c.finalLine := by
  induction n generalizing c with
  | zero => rfl
  | succ n ih =>
      cases hn : c.next? with
      | none => rw [Cursor.skip, hn]
      | some step => rw [Cursor.skip_of_next? hn, ih, Cursor.finalLine_of_next? hn]

/-- Where no word is left, the line of the end is reached. -/
theorem Cursor.line_eq_finalLine {c : Cursor} (h : c.next? = none) : c.line = c.finalLine := by
  unfold Cursor.next? at h
  split at h
  · next hk => rw [Cursor.finalLine, count_newline_of_readChunk?_eq_none hk, Nat.add_zero]
  · cases h

end RuleScript.Script
