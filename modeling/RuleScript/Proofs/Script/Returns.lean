/-
  RuleScript.Proofs.Script.Returns
  ────────────────────────────────
  **Ends of lines with carriage returns.**

  A carriage return is a blank.  It belongs to no comment marker and to no word outside
  quotes, so a script without quotes has the same comments and the same words when
  one is put in front of every end of a line, but for one thing: an end of a line that
  directly follows a word ends that word, while after the carriage return it is an empty
  word of its own.

  Main results:
    • `uncomment_withReturns` — comments are the same.
    • `words_line` — words are read line by line.
    • `words_line_return` — the words of one line.
    • `words_withReturns_atWord` — the words around the end of any line that ends in a word.
-/
import RuleScript.Proofs.Script.Comments
import RuleScript.Proofs.Script.Spelling

namespace RuleScript.Script

/-! ## §1. Carriage returns. -/

/-- The byte that a carriage return is. -/
def carriageReturn : UInt8 := 0x0D

/-- The script with a carriage return in front of every end of a line. -/
def withReturns (s : List UInt8) : List UInt8 :=
  s.flatMap fun b => if b = newline then [carriageReturn, newline] else [b]

theorem withReturns_nil : withReturns [] = [] := rfl

theorem withReturns_newline (s : List UInt8) :
    withReturns (newline :: s) = carriageReturn :: newline :: withReturns s := rfl

theorem withReturns_cons {b : UInt8} (hb : b ≠ newline) (s : List UInt8) :
    withReturns (b :: s) = b :: withReturns s := by
  unfold withReturns
  rw [List.flatMap_cons, if_neg hb]
  rfl

theorem withReturns_append (s t : List UInt8) :
    withReturns (s ++ t) = withReturns s ++ withReturns t :=
  List.flatMap_append

/-- A line is the same without its end. -/
theorem withReturns_of_not_mem {s : List UInt8} (h : newline ∉ s) : withReturns s = s := by
  induction s with
  | nil => rfl
  | cons b rest ih =>
      rw [List.mem_cons, not_or] at h
      rw [withReturns_cons (Ne.symm h.1), ih h.2]

/-- There are as many lines. -/
theorem count_newline_withReturns (s : List UInt8) :
    (withReturns s).count newline = s.count newline := by
  induction s with
  | nil => rfl
  | cons b rest ih =>
      by_cases hb : b = newline
      · subst hb
        rw [withReturns_newline, List.count_cons_of_ne (by decide), List.count_cons_self,
          List.count_cons_self, ih]
      · rw [withReturns_cons hb, List.count_cons, List.count_cons, ih]

/-- The first byte is the same, unless it is the end of a line. -/
theorem head?_withReturns_eq_some_iff {s : List UInt8} {b : UInt8} (hline : b ≠ newline)
    (hreturn : b ≠ carriageReturn) : (withReturns s).head? = some b ↔ s.head? = some b := by
  cases s with
  | nil => exact Iff.rfl
  | cons c rest =>
      by_cases hc : c = newline
      · subst hc
        rw [withReturns_newline, List.head?_cons, List.head?_cons]
        exact ⟨fun h => absurd (Option.some.inj h).symm hreturn,
          fun h => absurd (Option.some.inj h).symm hline⟩
      · rw [withReturns_cons hc, List.head?_cons, List.head?_cons]

/-! ## §2. Comments. -/

theorem opensLineComment_withReturns (b : UInt8) (rest : List UInt8) :
    opensLineComment (b :: withReturns rest) = opensLineComment (b :: rest) := by
  rw [Bool.eq_iff_iff, opensLineComment_cons, opensLineComment_cons,
    head?_withReturns_eq_some_iff (by decide) (by decide)]

theorem opensBlockComment_withReturns (b : UInt8) (rest : List UInt8) :
    opensBlockComment (b :: withReturns rest) = opensBlockComment (b :: rest) := by
  rw [Bool.eq_iff_iff, opensBlockComment_cons, opensBlockComment_cons,
    head?_withReturns_eq_some_iff (by decide) (by decide)]

theorem afterLine_withReturns (s : List UInt8) :
    afterLine (withReturns s) = withReturns (afterLine s) := by
  induction s with
  | nil => rfl
  | cons b rest ih =>
      by_cases hb : b = newline
      · subst hb
        rfl
      · rw [withReturns_cons hb, afterLine, afterLine, if_neg hb, if_neg hb, ih]

theorem tail_withReturns {s : List UInt8} (h : s.head? ≠ some newline) :
    (withReturns s).tail = withReturns s.tail := by
  cases s with
  | nil => rfl
  | cons b rest =>
      have hb : b ≠ newline := fun he => h (congrArg some he)
      rw [withReturns_cons hb, List.tail_cons, List.tail_cons]

theorem afterBlock?_withReturns (s : List UInt8) :
    afterBlock? (withReturns s) = (afterBlock? s).map withReturns := by
  induction s with
  | nil => rfl
  | cons a rest ih =>
      by_cases ha : a = newline
      · subst ha
        rw [withReturns_newline, afterBlock?_cons, afterBlock?_cons, afterBlock?_cons,
          if_neg (fun h => absurd h.1 (by decide)), if_neg (fun h => absurd h.1 (by decide)),
          if_neg (fun h => absurd h.1 (by decide)), ih]
      · have hsame : (a = star ∧ (withReturns rest).head? = some slash)
            ↔ (a = star ∧ rest.head? = some slash) :=
          and_congr_right fun _ => head?_withReturns_eq_some_iff (by decide) (by decide)
        rw [withReturns_cons ha, afterBlock?_cons, afterBlock?_cons]
        by_cases hend : a = star ∧ rest.head? = some slash
        · have hhead : rest.head? ≠ some newline := by
            rw [hend.2]
            decide
          rw [if_pos (hsame.2 hend), if_pos hend, tail_withReturns hhead]
          rfl
        · rw [if_neg (mt hsame.1 hend), if_neg hend, ih]

/-- What is behind the marker of a block comment gets its carriage returns. -/
theorem behind_withReturns {b : UInt8} {rest : List UInt8}
    (hblock : opensBlockComment (b :: rest) = true) :
    withReturns (b :: rest) = b :: withReturns rest ∧
      afterBlock? ((withReturns rest).drop 1) = (afterBlock? (rest.drop 1)).map withReturns := by
  obtain ⟨rfl, hstar⟩ := (opensBlockComment_cons b rest).1 hblock
  have hhead : rest.head? ≠ some newline := by
    rw [hstar]
    decide
  refine ⟨withReturns_cons (by decide) rest, ?_⟩
  rw [List.drop_one, tail_withReturns hhead, afterBlock?_withReturns, List.drop_one]

/-- **Carriage returns leave comments as they are.** -/
theorem uncomment_withReturns (s : List UInt8) :
    uncomment (withReturns s) = withReturns (uncomment s) := by
  fun_induction uncomment s with
  | case1 => rw [withReturns_nil, uncomment]
  | case2 b rest hline ih =>
      have hb : b ≠ newline := by
        rintro rfl
        cases rest <;> cases hline
      rw [← opensLineComment_withReturns] at hline
      rw [withReturns_cons hb, uncomment_line hline, afterLine_withReturns, ih]
  | case3 b rest hline hblock after hafter ih =>
      obtain ⟨hcons, hbehind⟩ := behind_withReturns hblock
      rw [Bool.not_eq_true, ← opensLineComment_withReturns] at hline
      rw [← opensBlockComment_withReturns] at hblock
      rw [hcons, uncomment_block hline hblock, hbehind, hafter]
      exact ih
  | case4 b rest hline hblock hafter =>
      obtain ⟨hcons, hbehind⟩ := behind_withReturns hblock
      rw [Bool.not_eq_true, ← opensLineComment_withReturns] at hline
      rw [← opensBlockComment_withReturns] at hblock
      rw [hcons, uncomment_block hline hblock, hbehind, hafter]
      rfl
  | case5 b rest hline hblock ih =>
      rw [Bool.not_eq_true] at hline hblock
      by_cases hb : b = newline
      · subst hb
        rw [withReturns_newline, uncomment_unmarked (by decide) (by decide),
          uncomment_unmarked (by decide) (by decide), withReturns_newline, ih]
      · rw [← opensLineComment_withReturns] at hline
        rw [← opensBlockComment_withReturns] at hblock
        rw [withReturns_cons hb, withReturns_cons hb, uncomment_plain hline hblock, ih]

/-! ## §3. Words. -/

/-- The words from a place in a word of which `seen`, last byte first, is already read. -/
def wordsFrom (seen : List UInt8) (c : Cursor) : List Word :=
  match readChunk? false seen c.rest with
  | none => []
  | some k =>
    ⟨Utf8.text k.bytes, c.line⟩
      :: Cursor.words ⟨k.rest, if k.endsLine then c.line + 1 else c.line⟩

theorem words_eq_wordsFrom (c : Cursor) : c.words = wordsFrom [] c := by
  unfold wordsFrom
  cases hk : readChunk? false [] c.rest with
  | none =>
      refine Cursor.words_of_next?_eq_none ?_
      unfold Cursor.next?
      rw [hk]
  | some k => exact Cursor.words_of_next? (Cursor.next?_of_readChunk? hk c.line)

section
variable (seen rest : List UInt8) (n : Nat)

theorem wordsFrom_newline :
    wordsFrom seen ⟨newline :: rest, n⟩
      = ⟨Utf8.text seen.reverse, n⟩ :: Cursor.words ⟨rest, n + 1⟩ := by
  unfold wordsFrom
  rw [readChunk?_newline]
  rfl

theorem wordsFrom_plain {b : UInt8} (hline : b ≠ newline) (hblank : isBlank b = false)
    (hquote : b ≠ quote) :
    wordsFrom seen ⟨b :: rest, n⟩ = wordsFrom (b :: seen) ⟨rest, n⟩ := by
  unfold wordsFrom
  rw [readChunk?_plain hline (by rw [hblank]; rfl) hquote]

theorem wordsFrom_blank {b : UInt8} (hblank : isBlank b = true) :
    wordsFrom seen ⟨b :: rest, n⟩
      = if seen.isEmpty then Cursor.words ⟨rest, n⟩
        else ⟨Utf8.text seen.reverse, n⟩ :: Cursor.words ⟨rest, n⟩ := by
  cases seen with
  | nil =>
      rw [← words_eq_wordsFrom, words_blank hblank]
      rfl
  | cons last before =>
      unfold wordsFrom
      rw [readChunk?_blank hblank]
      rfl

end

/-- The words of a line, from a place in a word of which `seen` is already read, when the end
of the line directly follows. -/
def lineWords (n : Nat) : List UInt8 → List UInt8 → List Word
  | seen, [] => [⟨Utf8.text seen.reverse, n⟩]
  | seen, b :: line =>
    if isBlank b then
      if seen.isEmpty then lineWords n [] line
      else ⟨Utf8.text seen.reverse, n⟩ :: lineWords n [] line
    else lineWords n (b :: seen) line

/-- The last byte belongs to a word. -/
def endsInWord (s : List UInt8) : Bool := s.getLast?.any fun b => !isBlank b && b != newline

/-- Whether the last byte belongs to a word is told behind any other byte. -/
theorem endsInWord_append_cons {b : UInt8} (hb : (!isBlank b && b != newline) = false)
    (before line : List UInt8) : endsInWord (before ++ b :: line) = endsInWord line := by
  unfold endsInWord
  rw [List.getLast?_append]
  cases line with
  | nil => exact hb
  | cons c line => rw [List.getLast?_cons_cons, List.getLast?_cons, Option.some_or]

/-- The empty word that an end of a line is when it is not what ends the last word. -/
def blankEnd (line : List UInt8) (n : Nat) : List Word :=
  if endsInWord line then [⟨"", n⟩] else []

section
variable {line : List UInt8} (hline : newline ∉ line) (hquote : quote ∉ line)
include hline hquote

/-- A line without quotes, and what comes after it. -/
theorem wordsFrom_line (seen rest : List UInt8) (n : Nat) :
    wordsFrom seen ⟨line ++ newline :: rest, n⟩
      = lineWords n seen line ++ Cursor.words ⟨rest, n + 1⟩ := by
  induction line generalizing seen with
  | nil => exact wordsFrom_newline seen rest n
  | cons b line ih =>
      rw [List.mem_cons, not_or] at hline hquote
      have ih := ih hline.2 hquote.2
      rw [lineWords, List.cons_append]
      by_cases hblank : isBlank b = true
      · rw [wordsFrom_blank seen _ n hblank, if_pos hblank, words_eq_wordsFrom, ih]
        split <;> rfl
      · rw [if_neg hblank]
        rw [Bool.not_eq_true] at hblank
        rw [wordsFrom_plain seen _ n (Ne.symm hline.1) hblank (Ne.symm hquote.1), ih]

/-- The same with a carriage return in front of the end of the line. -/
theorem wordsFrom_line_return {seen : List UInt8}
    (hseen : ∀ b ∈ seen, (!isBlank b && b != newline) = true) (rest : List UInt8) (n : Nat) :
    wordsFrom seen ⟨line ++ carriageReturn :: newline :: rest, n⟩
      = lineWords n seen line ++ blankEnd (seen.reverse ++ line) n
          ++ Cursor.words ⟨rest, n + 1⟩ := by
  induction line generalizing seen with
  | nil =>
      rw [List.nil_append, wordsFrom_blank _ _ _ (by decide), words_newline, List.append_nil]
      cases seen with
      | nil => rw [lineWords, List.reverse_nil, Utf8.text_nil]; rfl
      | cons last before =>
          have hends : endsInWord (last :: before).reverse = true := by
            unfold endsInWord
            rw [List.getLast?_reverse]
            exact hseen last List.mem_cons_self
          rw [blankEnd, if_pos hends]
          rfl
  | cons b line ih =>
      rw [List.mem_cons, not_or] at hline hquote
      have ih {seen : List UInt8} := @ih hline.2 hquote.2 seen
      rw [lineWords, List.cons_append]
      by_cases hblank : isBlank b = true
      · have hends : blankEnd (seen.reverse ++ b :: line) n = blankEnd line n := by
          unfold blankEnd
          rw [endsInWord_append_cons (by rw [hblank]; rfl)]
        rw [wordsFrom_blank seen _ n hblank, if_pos hblank, words_eq_wordsFrom,
          ih (List.forall_mem_nil _), hends]
        split <;> rfl
      · rw [if_neg hblank]
        rw [Bool.not_eq_true] at hblank
        have hword : (!isBlank b && b != newline) = true := by
          rw [hblank, bne_iff_ne.2 (Ne.symm hline.1)]
          rfl
        rw [wordsFrom_plain seen _ n (Ne.symm hline.1) hblank (Ne.symm hquote.1),
          ih (List.forall_mem_cons.2 ⟨hword, hseen⟩), List.reverse_cons,
          List.append_assoc seen.reverse, List.singleton_append]

/-- **Words are read line by line.** -/
theorem words_line (rest : List UInt8) (n : Nat) :
    Cursor.words ⟨line ++ newline :: rest, n⟩
      = lineWords n [] line ++ Cursor.words ⟨rest, n + 1⟩ := by
  rw [words_eq_wordsFrom, wordsFrom_line hline hquote]

/-- **With a carriage return, a line that ends in a word has one more word**, which is
empty. -/
theorem words_line_return (rest : List UInt8) (n : Nat) :
    Cursor.words ⟨line ++ carriageReturn :: newline :: rest, n⟩
      = lineWords n [] line ++ blankEnd line n ++ Cursor.words ⟨rest, n + 1⟩ := by
  rw [words_eq_wordsFrom, wordsFrom_line_return hline hquote (List.forall_mem_nil _)]
  rfl

end

/-- **Behind a word, a carriage return makes the end of its line an empty word.** -/
theorem words_withReturns_atWord {before : List UInt8} (hquote : quote ∉ before)
    (hends : endsInWord before = true) (after : List UInt8) (n : Nat) :
    Cursor.words ⟨withReturns (before ++ newline :: after), n⟩
      = Cursor.words ⟨withReturns before ++ [newline], n⟩
        ++ ⟨"", n + before.count newline⟩
          :: Cursor.words ⟨withReturns after, n + before.count newline + 1⟩ := by
  by_cases hmem : newline ∈ before
  · -- The first line is read alike on both sides, and the others stand one line further down.
    obtain ⟨line, rest, rfl, hline⟩ := List.eq_append_cons_of_mem hmem
    rw [List.mem_append, List.mem_cons, not_or, not_or] at hquote
    obtain ⟨hquote, -, hquoteRest⟩ := hquote
    rw [endsInWord_append_cons (by decide)] at hends
    have ih := words_withReturns_atWord hquoteRest hends after (n + 1)
    have hcount : n + (line ++ newline :: rest).count newline = n + 1 + rest.count newline := by
      rw [List.count_append, List.count_eq_zero.2 hline, List.count_cons_self]
      omega
    rw [hcount, List.append_assoc, List.cons_append, withReturns_append, withReturns_append,
      withReturns_of_not_mem hline, withReturns_newline, withReturns_newline, List.append_assoc,
      List.cons_append, List.cons_append, words_line_return hline hquote,
      words_line_return hline hquote, ih]
    exact (List.append_assoc ..).symm
  · rw [withReturns_append, withReturns_of_not_mem hmem, withReturns_newline,
      words_line_return hmem hquote, words_line hmem hquote, List.count_eq_zero.2 hmem]
    unfold blankEnd
    rw [if_pos hends, words_nil, List.append_nil, List.append_assoc]
    rfl
termination_by before.length

end RuleScript.Script
