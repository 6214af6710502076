/-
  RuleScript.Proofs.Script.Spelling
  ─────────────────────────────────
  **Words as they are written.**

  A word is written bare or between quotes, and either way a quote in it gets a
  backslash.  Not every word can be written both ways: blanks need quotes, and
  in front of a closing quote no backslash may stand.  What is readable is read
  back to the word itself, whatever follows it.

  Main results:
    • `readChunk?_escape` — escaped bytes are read as the bytes themselves.
    • `words_spelling_blank` / `words_spelling_end` — a readable spelling before
      a blank, or at the end of the script, is one word.
    • `words_spelling_newline` — before the end of a line it is one word too; the
      end of the line is left over where a quote has closed the word.
-/
import RuleScript.Proofs.Script.Cursor

namespace RuleScript.Script

/-! ## §1. Spellings. -/

/-- The bytes of a word with a backslash before every quote. -/
def escape : List UInt8 → List UInt8
  | [] => []
  | b :: rest => if b = quote then backslash :: quote :: escape rest else b :: escape rest

/-- A word, and whether it is written between quotes. -/
structure Spelling where
  text : String
  quoted : Bool
  deriving Repr, DecidableEq

/-- The bytes that are written for a word. -/
def Spelling.bytes (s : Spelling) : List UInt8 :=
  if s.quoted then quote :: escape (Utf8.encode s.text) ++ [quote]
  else escape (Utf8.encode s.text)

/-- The word can be written in this way.  The end of a line ends every word; a bare
word is not empty and has no blanks, and a quoted one does not end in a backslash. -/
def Spelling.readable (s : Spelling) : Bool :=
  let bytes := Utf8.encode s.text
  bytes.all (· != newline) &&
    if s.quoted then bytes.getLast? != some backslash
    else !bytes.isEmpty && bytes.all (!isBlank ·)

/-! ## §2. Reading byte by byte. -/

theorem readChunk?_newline (quoted : Bool) (seen rest : List UInt8) :
    readChunk? quoted seen (newline :: rest) = some ⟨seen.reverse, true, rest⟩ := by
  rw [readChunk?.eq_def]
  exact if_pos rfl

/-- A blank in front of a word is skipped, and one after it ends it. -/
theorem readChunk?_blank {b : UInt8} (hb : isBlank b = true) (seen rest : List UInt8) :
    readChunk? false seen (b :: rest)
      = if seen.isEmpty then readChunk? false seen rest
        else some ⟨seen.reverse, false, rest⟩ := by
  have hline : b ≠ newline := by
    intro he
    subst he
    exact absurd hb (by decide)
  rw [readChunk?.eq_def]
  simp only [if_neg hline, hb, Bool.not_false, Bool.and_true, if_true]

/-- Any other byte but a quote belongs to the word. -/
theorem readChunk?_plain {quoted : Bool} {b : UInt8} (hline : b ≠ newline)
    (hblank : (!quoted && isBlank b) = false) (hq : b ≠ quote) (seen rest : List UInt8) :
    readChunk? quoted seen (b :: rest) = readChunk? quoted (b :: seen) rest := by
  rw [readChunk?.eq_def]
  simp only [if_neg hline, hblank, Bool.false_eq_true, if_false, if_neg hq]

/-- A quote takes the place of the backslash before it. -/
theorem readChunk?_escapedQuote (quoted : Bool) (seen rest : List UInt8) :
    readChunk? quoted (backslash :: seen) (quote :: rest)
      = readChunk? quoted (quote :: seen) rest := by
  have hblank : (!quoted && isBlank quote) = false := by
    rw [show isBlank quote = false by decide, Bool.and_false]
  rw [readChunk?.eq_def]
  simp only [show quote ≠ newline by decide, if_false, hblank, Bool.false_eq_true, if_true]

/-- A quote right at the start opens a quoted word. -/
theorem readChunk?_opening (rest : List UInt8) :
    readChunk? false [] (quote :: rest) = readChunk? true [] rest := by
  rw [readChunk?.eq_def]
  simp only [show quote ≠ newline by decide, show isBlank quote = false by decide, Bool.and_false,
    Bool.false_eq_true, if_false, if_true]

/-- Any other quote ends the word that it stands in. -/
theorem readChunk?_endingQuote (quoted : Bool) {last : UInt8} (hlast : last ≠ backslash)
    (before rest : List UInt8) :
    readChunk? quoted (last :: before) (quote :: rest)
      = some ⟨(last :: before).reverse, false, rest⟩ := by
  have hblank : (!quoted && isBlank quote) = false := by
    rw [show isBlank quote = false by decide, Bool.and_false]
  rw [readChunk?.eq_def]
  simp only [show quote ≠ newline by decide, if_false, hblank, Bool.false_eq_true, if_true,
    if_neg hlast]

/-- A quoted word ends at the next quote that no backslash stands before. -/
theorem readChunk?_closing {seen : List UInt8} (h : seen.head? ≠ some backslash)
    (rest : List UInt8) :
    readChunk? true seen (quote :: rest) = some ⟨seen.reverse, false, rest⟩ := by
  cases seen with
  | nil =>
      rw [readChunk?.eq_def]
      simp only [show quote ≠ newline by decide, Bool.not_true, Bool.false_and, Bool.false_eq_true,
        if_false, if_true]
      rfl
  | cons last before =>
      have hlast : last ≠ backslash := by
        intro he
        exact h (he ▸ rfl)
      exact readChunk?_endingQuote true hlast before rest

/-! ## §3. Reading one word back. -/

/-- Reading goes over escaped bytes as over the bytes themselves. -/
theorem readChunk?_escape {quoted : Bool} {bytes : List UInt8} (hline : newline ∉ bytes)
    (hblank : quoted = false → ∀ b ∈ bytes, isBlank b = false) (seen rest : List UInt8) :
    readChunk? quoted seen (escape bytes ++ rest)
      = readChunk? quoted (bytes.reverse ++ seen) rest := by
  induction bytes generalizing seen with
  | nil => rfl
  | cons b bytes ih =>
      have hb : b ≠ newline := by
        intro he
        exact hline (he ▸ List.mem_cons_self)
      have hkeep : (!quoted && isBlank b) = false := by
        cases quoted with
        | true => rfl
        | false => simpa using hblank rfl b List.mem_cons_self
      have htail := ih (fun h => hline (List.mem_cons_of_mem _ h))
        (fun hq c hc => hblank hq c (List.mem_cons_of_mem _ hc))
      rw [List.reverse_cons, List.append_assoc, List.singleton_append]
      by_cases hq : b = quote
      · -- The backslash is read as a byte of the word, then the quote takes its place.
        subst hq
        rw [escape, if_pos rfl, List.cons_append, List.cons_append]
        rw [readChunk?_plain (by decide) (by rw [show isBlank backslash = false by decide,
          Bool.and_false]) (by decide), readChunk?_escapedQuote]
        exact htail _
      · rw [escape, if_neg hq, List.cons_append, readChunk?_plain hb hkeep hq]
        exact htail _

section
variable {s : Spelling}

theorem Spelling.newline_not_mem (hs : s.readable = true) : newline ∉ Utf8.encode s.text := by
  simp only [Spelling.readable, Bool.and_eq_true, List.all_eq_true] at hs
  intro h
  exact absurd (hs.1 _ h) (by decide)

/-- A bare word has a first byte and no blanks. -/
theorem Spelling.bare (hs : s.readable = true) (hq : s.quoted = false) :
    Utf8.encode s.text ≠ [] ∧ ∀ b ∈ Utf8.encode s.text, isBlank b = false := by
  simp only [Spelling.readable, hq, Bool.false_eq_true, if_false, Bool.and_eq_true,
    List.all_eq_true, Bool.not_eq_true', List.isEmpty_eq_false_iff] at hs
  exact hs.2

/-- A bare word is read up to what follows it. -/
theorem readChunk?_bare (hs : s.readable = true) (hq : s.quoted = false) (rest : List UInt8) :
    readChunk? false [] (s.bytes ++ rest)
      = readChunk? false (Utf8.encode s.text).reverse rest := by
  rw [Spelling.bytes, hq, if_neg Bool.false_ne_true]
  rw [readChunk?_escape (Spelling.newline_not_mem hs) (fun _ => (Spelling.bare hs hq).2),
    List.append_nil]

/-- A quoted word ends with its closing quote. -/
theorem readChunk?_quoted (hs : s.readable = true) (hq : s.quoted = true) (rest : List UInt8) :
    readChunk? false [] (s.bytes ++ rest) = some ⟨Utf8.encode s.text, false, rest⟩ := by
  have hline := Spelling.newline_not_mem hs
  simp only [Spelling.readable, hq, if_true, Bool.and_eq_true, bne_iff_ne] at hs
  -- The opening quote, the escaped bytes and the closing quote, one after the other.
  rw [Spelling.bytes, hq, if_pos rfl, List.cons_append, List.cons_append, List.append_assoc,
    List.singleton_append, readChunk?_opening]
  rw [readChunk?_escape hline (fun h => by cases h), List.append_nil]
  rw [readChunk?_closing (by rw [List.head?_reverse]; exact hs.2), List.reverse_reverse]

end

/-! ## §4. Words of a script. -/

theorem words_nil (n : Nat) : Cursor.words ⟨[], n⟩ = [] :=
  Cursor.words_of_next?_eq_none rfl

/-- A blank in front of a word is no part of it. -/
theorem Cursor.next?_blank {b : UInt8} (hb : isBlank b = true) (rest : List UInt8) (n : Nat) :
    Cursor.next? ⟨b :: rest, n⟩ = Cursor.next? ⟨rest, n⟩ := by
  unfold Cursor.next?
  rw [readChunk?_blank hb]
  rfl

/-- A blank between words is skipped. -/
theorem words_blank {b : UInt8} (hb : isBlank b = true) (rest : List UInt8) (n : Nat) :
    Cursor.words ⟨b :: rest, n⟩ = Cursor.words ⟨rest, n⟩ := by
  have hnext := Cursor.next?_blank hb rest n
  cases hn : Cursor.next? ⟨rest, n⟩ with
  | none =>
      rw [Cursor.words_of_next?_eq_none hn, Cursor.words_of_next?_eq_none (hnext.trans hn)]
  | some step => rw [Cursor.words_of_next? hn, Cursor.words_of_next? (hnext.trans hn)]

theorem words_blanks {blanks : List UInt8} (h : ∀ b ∈ blanks, isBlank b = true)
    (rest : List UInt8) (n : Nat) :
    Cursor.words ⟨blanks ++ rest, n⟩ = Cursor.words ⟨rest, n⟩ := by
  induction blanks with
  | nil => rfl
  | cons b blanks ih =>
      rw [List.cons_append, words_blank (h b List.mem_cons_self)]
      exact ih fun c hc => h c (List.mem_cons_of_mem _ hc)

/-- The end of a line between words is an empty word. -/
theorem words_newline (rest : List UInt8) (n : Nat) :
    Cursor.words ⟨newline :: rest, n⟩ = ⟨"", n⟩ :: Cursor.words ⟨rest, n + 1⟩ := by
  have hnext := Cursor.next?_of_readChunk? (readChunk?_newline false [] rest) n
  rw [List.reverse_nil, Utf8.text_nil] at hnext
  exact Cursor.words_of_next? hnext

/-- A word whose bytes are read as one chunk. -/
theorem words_of_readChunk? {text : String} {s rest : List UInt8} {endsLine : Bool} (n : Nat)
    (h : readChunk? false [] s = some ⟨Utf8.encode text, endsLine, rest⟩) :
    Cursor.words ⟨s, n⟩
      = ⟨text, n⟩ :: Cursor.words ⟨rest, if endsLine then n + 1 else n⟩ := by
  have hnext := Cursor.next?_of_readChunk? h n
  rw [Utf8.text_encode] at hnext
  exact Cursor.words_of_next? hnext

section
variable {s : Spelling} (hs : s.readable = true) (n : Nat)
include hs

/-- What ends a bare word is taken with it; after a quoted one nothing is. -/
theorem words_spelling_blank {b : UInt8} (hb : isBlank b = true) (rest : List UInt8) :
    Cursor.words ⟨s.bytes ++ b :: rest, n⟩ = ⟨s.text, n⟩ :: Cursor.words ⟨rest, n⟩ := by
  by_cases hq : s.quoted = true
  · rw [words_of_readChunk? n (readChunk?_quoted hs hq _)]
    rw [if_neg Bool.false_ne_true, words_blank hb]
  · rw [Bool.not_eq_true] at hq
    have hne : (Utf8.encode s.text).reverse.isEmpty = false := by
      simpa using (Spelling.bare hs hq).1
    have hread : readChunk? false [] (s.bytes ++ b :: rest)
        = some ⟨Utf8.encode s.text, false, rest⟩ := by
      rw [readChunk?_bare hs hq, readChunk?_blank hb, hne, if_neg Bool.false_ne_true,
        List.reverse_reverse]
    exact words_of_readChunk? n hread

theorem words_spelling_end : Cursor.words ⟨s.bytes, n⟩ = [⟨s.text, n⟩] := by
  by_cases hq : s.quoted = true
  · have hread := readChunk?_quoted hs hq []
    rw [List.append_nil] at hread
    rw [words_of_readChunk? n hread, words_nil]
  · rw [Bool.not_eq_true] at hq
    have hread := readChunk?_bare hs hq []
    have hne : (Utf8.encode s.text).reverse.isEmpty = false := by
      simpa using (Spelling.bare hs hq).1
    rw [List.append_nil, readChunk?, hne, Bool.false_and, if_neg Bool.false_ne_true,
      List.reverse_reverse] at hread
    rw [words_of_readChunk? n hread, words_nil]

/-- A spelling is one word with the blanks behind it, which it needs where more follows. -/
theorem words_spelling_gap {gap rest : List UInt8} (hblanks : ∀ b ∈ gap, isBlank b = true)
    (hgap : gap ≠ [] ∨ rest = []) :
    Cursor.words ⟨s.bytes ++ gap ++ rest, n⟩ = ⟨s.text, n⟩ :: Cursor.words ⟨rest, n⟩ := by
  cases gap with
  | nil =>
      obtain rfl := hgap.resolve_left fun h => h rfl
      rw [List.append_nil, List.append_nil, words_spelling_end hs, words_nil]
  | cons b gap =>
      rw [List.append_assoc, List.cons_append,
        words_spelling_blank hs n (hblanks b List.mem_cons_self),
        words_blanks fun c hc => hblanks c (List.mem_cons_of_mem _ hc)]

theorem words_spelling_newline (rest : List UInt8) :
    Cursor.words ⟨s.bytes ++ newline :: rest, n⟩
      = ⟨s.text, n⟩ :: (if s.quoted then Cursor.words ⟨newline :: rest, n⟩
          else Cursor.words ⟨rest, n + 1⟩) := by
  by_cases hq : s.quoted = true
  · rw [words_of_readChunk? n (readChunk?_quoted hs hq _)]
    rw [if_neg Bool.false_ne_true, if_pos hq]
  · rw [Bool.not_eq_true] at hq
    have hread := readChunk?_bare hs hq (newline :: rest)
    rw [readChunk?_newline, List.reverse_reverse] at hread
    rw [words_of_readChunk? n hread, if_pos rfl, hq, if_neg Bool.false_ne_true]

end

end RuleScript.Script
