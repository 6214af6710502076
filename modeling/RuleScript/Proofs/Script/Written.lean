/-
  RuleScript.Proofs.Script.Written
  ────────────────────────────────
  **Words that are written down and read back.**

  A word is written bare, between quotes, or behind a quote that the end of the line
  closes.  Between quotes every quote in the word gets a backslash.  Reading does not look
  for what a backslash itself stands for: it takes a quote for the backslash that it finds
  right before it, and all other backslashes are bytes of the word.  So a word may have any
  number of them, but for one at its end when a closing quote follows.

  Main results:
    • `encode_escaped` — a word in quotes, and the bytes of it.
    • `Written.words_append` — one word is read back.
    • `words_written` — and so is a whole text.
-/
import RuleScript.Proofs.Script.Spelling
import RuleScript.Proofs.Text.Utf8

namespace RuleScript.Script

/-! ## §1. Ways to write a word. -/

/-- How a word is written. -/
inductive Form where
  | bare
  | quoted
  /-- Behind a quote, and the end of the line is the end of it. -/
  | unclosed
  deriving Repr, DecidableEq

/-- The word can be written in this form: a bare one is not empty and has no blank and no quote
in it, and one before a closing quote does not end in a backslash. -/
def Form.Suits : Form → String → Prop
  | .bare, text => text ≠ "" ∧ ∀ c ∈ text.toList, c ∉ [' ', '\t', '\r', '"']
  | .quoted, text => text.toList.getLast? ≠ some '\\'
  | .unclosed, _ => True

instance : (form : Form) → (text : String) → Decidable (form.Suits text)
  | .bare, text =>
    let _ := List.decidableBAll (· ∉ [' ', '\t', '\r', '"']) text.toList
    inferInstanceAs (Decidable (_ ∧ _))
  | .quoted, _ => inferInstanceAs (Decidable (_ ≠ _))
  | .unclosed, _ => inferInstanceAs (Decidable True)

/-- The word with a backslash before every quote. -/
def escaped (text : String) : String :=
  String.ofList (text.toList.flatMap fun c => if c = '"' then ['\\', '"'] else [c])

/-- A word as it is written, and the blanks behind it. -/
structure Written where
  text : String
  form : Form
  gap : List UInt8
  deriving Repr, DecidableEq

namespace Written

/-- The bytes of the word and of the blanks. -/
def bytes (w : Written) : List UInt8 :=
  match w.form with
  | .bare => Utf8.encode w.text ++ w.gap
  | .quoted => Utf8.encode ("\"" ++ escaped w.text ++ "\"") ++ w.gap
  | .unclosed => Utf8.encode ("\"" ++ escaped w.text) ++ newline :: w.gap

/-- The word has no end of a line in it, its form suits it, and there is nothing but blanks
behind it. -/
def Allowed (w : Written) : Prop :=
  '\n' ∉ w.text.toList ∧ w.form.Suits w.text ∧ ∀ b ∈ w.gap, isBlank b = true

instance (w : Written) : Decidable w.Allowed :=
  let _ := List.decidableBAll (isBlank · = true) w.gap
  inferInstanceAs (Decidable (_ ∧ _ ∧ _))

end Written

/-- Between two words there is a blank, or the end of the line that closes the first one. -/
def Separated : List Written → Prop
  | [] => True
  | [_] => True
  | w :: next :: rest => (w.form = .unclosed ∨ w.gap ≠ []) ∧ Separated (next :: rest)

/-- The words that are written, the first one on line `n`. -/
def wordsOf (n : Nat) : List Written → List Word
  | [] => []
  | w :: rest => ⟨w.text, n⟩ :: wordsOf (if w.form = .unclosed then n + 1 else n) rest

/-! ## §2. Bytes. -/

theorem encode_append (s t : String) :
    Utf8.encode (s ++ t) = Utf8.encode s ++ Utf8.encode t := by
  unfold Utf8.encode
  rw [String.toList_append, List.flatMap_append]

theorem escape_append (s t : List UInt8) : escape (s ++ t) = escape s ++ escape t := by
  induction s with
  | nil => rfl
  | cons b s ih =>
      rw [List.cons_append, escape, escape, ih]
      split <;> rfl

/-- Bytes without a quote stay as they are. -/
theorem escape_of_not_mem {s : List UInt8} (h : quote ∉ s) : escape s = s := by
  induction s with
  | nil => rfl
  | cons b s ih =>
      rw [List.mem_cons, not_or] at h
      rw [escape, if_neg (Ne.symm h.1), ih h.2]

/-- **A word with a backslash before every quote** has one before every quote of its bytes. -/
theorem encode_escaped (text : String) :
    Utf8.encode (escaped text) = escape (Utf8.encode text) := by
  unfold Utf8.encode escaped
  rw [String.toList_ofList]
  induction text.toList with
  | nil => rfl
  | cons c rest ih =>
      rw [List.flatMap_cons, List.flatMap_append, List.flatMap_cons, escape_append, ih]
      have hchar : (if c = '"' then ['\\', '"'] else [c]).flatMap String.utf8EncodeChar
          = escape (String.utf8EncodeChar c) := by
        by_cases hc : c = '"'
        · subst hc
          decide
        · have hquote : quote ∉ String.utf8EncodeChar c :=
            mt (Utf8.byteOf_mem_encodeChar_iff (c := '"') (by decide)).1 hc
          rw [if_neg hc, List.flatMap_singleton, escape_of_not_mem hquote]
      rw [hchar]

/-! ## §3. Reading back. -/

theorem newline_not_mem_encode {text : String} (h : '\n' ∉ text.toList) :
    newline ∉ Utf8.encode text :=
  mt (Utf8.byte_mem_encode_iff (c := '\n') (by decide)).1 h

/-- The bytes that are blank are those of the blanks among the characters. -/
theorem isBlank_iff {b : UInt8} :
    isBlank b = true ↔ b = Utf8.byteOf ' ' ∨ b = Utf8.byteOf '\t' ∨ b = Utf8.byteOf '\r' := by
  unfold isBlank
  rw [Bool.or_eq_true, Bool.or_eq_true, beq_iff_eq, beq_iff_eq, beq_iff_eq, or_assoc]
  exact Iff.rfl

section
variable {text : String} (hline : '\n' ∉ text.toList)
include hline

/-- A word that suits the bare form is readable. -/
theorem readable_bare (hsuits : Form.bare.Suits text) :
    (Spelling.mk text false).readable = true ∧ (Spelling.mk text false).bytes = Utf8.encode text := by
  obtain ⟨hne, hchars⟩ := hsuits
  have hmem {c : Char} (hc : c.toNat < 0x80) (hbad : c ∈ [' ', '\t', '\r', '"']) :
      Utf8.byteOf c ∉ Utf8.encode text := by
    intro h
    exact hchars c ((Utf8.byte_mem_encode_iff hc).1 h) hbad
  have hblank : ∀ b ∈ Utf8.encode text, isBlank b = false := by
    intro b hb
    rw [Bool.eq_false_iff]
    intro h
    rcases isBlank_iff.1 h with rfl | rfl | rfl
    · exact hmem (by decide) (by decide) hb
    · exact hmem (by decide) (by decide) hb
    · exact hmem (by decide) (by decide) hb
  have hbytes : Utf8.encode text ≠ [] := by
    intro h
    have htext := Utf8.text_encode text
    rw [h, Utf8.text_nil] at htext
    exact hne htext.symm
  have hnewline := newline_not_mem_encode hline
  constructor
  · simp only [Spelling.readable, Bool.false_eq_true, if_false, Bool.and_eq_true, List.all_eq_true,
      bne_iff_ne, Bool.not_eq_true', List.isEmpty_eq_false_iff]
    exact ⟨fun b hb he => hnewline (he ▸ hb), hbytes, hblank⟩
  · exact escape_of_not_mem (hmem (c := '"') (by decide) (by decide))

/-- A word that suits the quoted form is readable. -/
theorem readable_quoted (hsuits : Form.quoted.Suits text) :
    (Spelling.mk text true).readable = true ∧
      (Spelling.mk text true).bytes = Utf8.encode ("\"" ++ escaped text ++ "\"") := by
  have hnewline := newline_not_mem_encode hline
  have hlast : (Utf8.encode text).getLast? ≠ some backslash :=
    mt (Utf8.getLast?_encode_eq_iff (c := '\\') (by decide)).1 hsuits
  constructor
  · simp only [Spelling.readable, if_true, Bool.and_eq_true, List.all_eq_true, bne_iff_ne]
    exact ⟨fun b hb he => hnewline (he ▸ hb), hlast⟩
  · rw [encode_append, encode_append, encode_escaped]
    rfl

/-- Behind a quote, a word runs to the end of the line, whatever its last byte is. -/
theorem readChunk?_unclosed (rest : List UInt8) :
    readChunk? false [] (Utf8.encode ("\"" ++ escaped text) ++ newline :: rest)
      = some ⟨Utf8.encode text, true, rest⟩ := by
  have hquote : Utf8.encode "\"" = [quote] := rfl
  have hblank : true = false → ∀ b ∈ Utf8.encode text, isBlank b = false := fun h => by cases h
  rw [encode_append, encode_escaped, hquote, List.cons_append, List.nil_append, List.cons_append,
    readChunk?_opening, readChunk?_escape (newline_not_mem_encode hline) hblank, List.append_nil,
    readChunk?_newline, List.reverse_reverse]

end

/-- **One word is read back**, with the blanks behind it. -/
theorem Written.words_append {w : Written} (hw : w.Allowed) {rest : List UInt8}
    (hgap : w.form = .unclosed ∨ w.gap ≠ [] ∨ rest = []) (n : Nat) :
    Cursor.words ⟨w.bytes ++ rest, n⟩
      = ⟨w.text, n⟩ :: Cursor.words ⟨rest, if w.form = .unclosed then n + 1 else n⟩ := by
  obtain ⟨text, form, gap⟩ := w
  obtain ⟨hline, hsuits, hblanks⟩ := hw
  simp only at hline hsuits hblanks hgap ⊢
  cases form with
  | bare =>
      obtain ⟨hs, hbytes⟩ := readable_bare hline hsuits
      have hread := words_spelling_gap hs n hblanks (hgap.resolve_left nofun)
      rw [hbytes] at hread
      exact hread
  | quoted =>
      obtain ⟨hs, hbytes⟩ := readable_quoted hline hsuits
      have hread := words_spelling_gap hs n hblanks (hgap.resolve_left nofun)
      rw [hbytes] at hread
      exact hread
  | unclosed =>
      have hread := readChunk?_unclosed hline (gap ++ rest)
      have hbytes : (Written.mk text .unclosed gap).bytes ++ rest
          = Utf8.encode ("\"" ++ escaped text) ++ newline :: (gap ++ rest) := by
        show Utf8.encode ("\"" ++ escaped text) ++ newline :: gap ++ rest = _
        rw [List.append_assoc, List.cons_append]
      rw [hbytes, words_of_readChunk? n hread, if_pos rfl, if_pos rfl, words_blanks hblanks]

/-- What is written is read back, word by word. -/
theorem words_flatMap_bytes {items : List Written} (hitems : ∀ w ∈ items, w.Allowed)
    (hseparated : Separated items) (n : Nat) :
    Cursor.words ⟨items.flatMap Written.bytes, n⟩ = wordsOf n items := by
  induction items generalizing n with
  | nil => exact words_nil n
  | cons w rest ih =>
      have hw := hitems w List.mem_cons_self
      have hrest : ∀ v ∈ rest, v.Allowed := fun v hv => hitems v (List.mem_cons_of_mem _ hv)
      rw [List.flatMap_cons, wordsOf]
      cases rest with
      | nil =>
          rw [List.flatMap_nil, w.words_append hw (.inr (.inr rfl)), words_nil]
          rfl
      | cons next rest =>
          obtain ⟨hgap, hseparated⟩ := hseparated
          rw [w.words_append hw (hgap.imp_right .inl), ih hrest hseparated]

/-! ## §4. The words and their lines. -/

theorem map_text_wordsOf (n : Nat) (items : List Written) :
    (wordsOf n items).map (·.text) = items.map (·.text) := by
  induction items generalizing n with
  | nil => rfl
  | cons w rest ih => rw [wordsOf, List.map_cons, List.map_cons, ih]

/-- A word is so many lines down as words before it run to the end of their line. -/
theorem line_of_wordsOf {n i : Nat} {items : List Written} {w : Word}
    (h : (wordsOf n items)[i]? = some w) :
    w.line = n + (items.take i).countP (·.form == .unclosed) := by
  induction items generalizing n i with
  | nil => cases h
  | cons v rest ih =>
      cases i with
      | zero =>
          cases h
          rfl
      | succ i =>
          rw [wordsOf, List.getElem?_cons_succ] at h
          rw [ih h, List.take_succ_cons, List.countP_cons]
          by_cases hv : v.form = .unclosed
          · rw [if_pos hv, hv, beq_self_eq_true, if_pos rfl]
            omega
          · rw [if_neg hv, beq_eq_false_iff_ne.2 hv, if_neg Bool.false_ne_true]
            rfl

/-- **What is written is read back.**  Words that are written in forms that suit them, with
blanks between them and maybe around them, are read as they are, in their order and all on
the first line; and a word that the end of the line closes is one too, whatever it ends in,
only that what follows is on the next line. -/
theorem words_written {lead : List UInt8} {items : List Written}
    (hlead : ∀ b ∈ lead, isBlank b = true) (hitems : ∀ w ∈ items, w.Allowed)
    (hseparated : Separated items) :
    let words := (Cursor.start (lead ++ items.flatMap Written.bytes)).words
    words.map (·.text) = items.map (·.text) ∧
      ((∀ w ∈ items, w.form ≠ .unclosed) → ∀ w ∈ words, w.line = 1) ∧
      ∀ i w, words[i]? = some w → w.line = 1 + (items.take i).countP (·.form == .unclosed) := by
  intro words
  have hwords : words = wordsOf 1 items :=
    (words_blanks hlead _ 1).trans (words_flatMap_bytes hitems hseparated 1)
  rw [hwords]
  refine ⟨map_text_wordsOf 1 items, ?_, fun i w => line_of_wordsOf⟩
  intro hforms w hw
  obtain ⟨i, hi⟩ := List.mem_iff_getElem?.1 hw
  have hnone : (items.take i).countP (·.form == .unclosed) = 0 := by
    rw [List.countP_eq_zero]
    intro v hv
    rw [beq_iff_eq]
    exact hforms v (List.mem_of_mem_take hv)
  rw [line_of_wordsOf hi, hnone]

/-- A word with a quote in front, a blank and backslashes before a quote; an empty word; a word
that ends in a backslash and runs to the end of its line; a bare word that ends in one. -/
theorem words_written_backslashes :
    let items : List Written :=
      [⟨"\" a\\\\\"b", .quoted, [9]⟩, ⟨"", .quoted, [32, 13]⟩, ⟨"c\\", .unclosed, [32]⟩,
        ⟨"π\\", .bare, []⟩]
    ((∀ b ∈ [32], isBlank b = true) ∧ (∀ w ∈ items, w.Allowed) ∧ Separated items) ∧
      (Cursor.start ([32] ++ items.flatMap Written.bytes)).words.map (·.text)
        = ["\" a\\\\\"b", "", "c\\", "π\\"] := by
  intro items
  have hlead : ∀ b ∈ [32], isBlank b = true := List.forall_mem_singleton.2 rfl
  have hitems : ∀ w ∈ items, w.Allowed := by decide +kernel
  have hseparated : Separated items := ⟨.inr nofun, .inr nofun, .inl rfl, trivial⟩
  exact ⟨⟨hlead, hitems, hseparated⟩, (words_written hlead hitems hseparated).1⟩

end RuleScript.Script
