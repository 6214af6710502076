/-
  RuleScript.Proofs.Script.Characters
  ───────────────────────────────────
  **Text stays text.**

  Comments are taken out and words are read byte by byte, though a script is text.  All that
  is ever looked for is one of the first 128 characters, which are one byte each and in no
  other character.  So every cut falls between two characters: what is left of a text
  without its comments is a text, and so are the bytes of every word, and reading them as
  one puts nothing in.

  Main results:
    • `uncomment_bytesOf` — what is left of a text.
    • `stepsOver` — one character is read as a whole.
    • `text_survives` — no character is broken on the way from a script to its words.
-/
import RuleScript.Proofs.Script.Comments
import RuleScript.Proofs.Script.Lines
import RuleScript.Proofs.Script.Written

namespace RuleScript.Script

open Utf8 (bytesOf bytesOf_cons bytesOf_append bytesOf_singleton byteOf)

/-! ## §1. Comments. -/

/-- Markers start with one of the first 128 characters. -/
theorem Opening.exists_chars (o : Opening) :
    ∃ c marker, c.toNat < 0x80 ∧ o.bytes = bytesOf (c :: marker) := by
  cases o with
  | hash => exact ⟨'#', [], by decide, rfl⟩
  | slashes => exact ⟨'/', ['/'], by decide, rfl⟩
  | block => exact ⟨'/', ['*'], by decide, rfl⟩

/-- So does what closes a comment. -/
theorem Opening.exists_closing_chars (o : Opening) :
    ∃ c marker, c.toNat < 0x80 ∧ o.closing = bytesOf (c :: marker) := by
  cases o with
  | hash => exact ⟨'\n', [], by decide, rfl⟩
  | slashes => exact ⟨'\n', [], by decide, rfl⟩
  | block => exact ⟨'*', ['/'], by decide, rfl⟩

/-- **A comment stands between characters**, and so does what is behind it. -/
theorem Comment.exists_chars {c : Comment} {front : List UInt8} {chars : List Char}
    (h : bytesOf chars = front ++ c.text) :
    ∃ before others, chars = before ++ others ∧ front = bytesOf before ∧
      ∀ behind, c.behind? = some behind → ∃ inside after, others = inside ++ after ∧
        inside ≠ [] ∧ behind = bytesOf after := by
  obtain ⟨opening, body, behind?⟩ := c
  obtain ⟨m, marker, hm, hbytes⟩ := opening.exists_chars
  have hmarker : bytesOf chars
      = front ++ bytesOf (m :: marker) ++ (⟨opening, body, behind?⟩ : Comment).rest := by
    rw [h, ← hbytes, List.append_assoc]
    rfl
  obtain ⟨before, inside, rfl, rfl, hrest⟩ := Utf8.split_at_bytes hm hmarker
  refine ⟨before, m :: marker ++ inside, List.append_assoc .., rfl, ?_⟩
  rintro behind rfl
  obtain ⟨e, closing, he, hclosing⟩ := opening.exists_closing_chars
  have hend : bytesOf inside = body ++ bytesOf (e :: closing) ++ behind := by
    rw [← hrest, ← hclosing]
    rfl
  obtain ⟨text, after, rfl, -, rfl⟩ := Utf8.split_at_bytes he hend
  refine ⟨m :: marker ++ (text ++ e :: closing), after, ?_, List.cons_ne_nil _ _, rfl⟩
  rw [← List.append_assoc]

/-- **What is left of a text without its comments** is a text, with some of its characters. -/
theorem uncomment_bytesOf (chars : List Char) :
    ∃ kept, uncomment (bytesOf chars) = bytesOf kept ∧ kept.Sublist chars := by
  -- What is behind the first comment is shorter.
  induction hlength : chars.length using Nat.strongRecOn generalizing chars with
  | ind n ih =>
      subst hlength
      obtain ⟨⟨front, comment?⟩, hsound, htext⟩ := Cut.exists_cut (bytesOf chars)
      rw [← htext, Cut.uncomment_text hsound]
      cases comment? with
      | none => exact ⟨chars, htext, List.Sublist.refl chars⟩
      | some c =>
          obtain ⟨before, others, rfl, rfl, hbehind⟩ := c.exists_chars htext.symm
          obtain ⟨opening, body, behind?⟩ := c
          cases behind? with
          | some behind =>
              obtain ⟨inside, after, rfl, hne, rfl⟩ := hbehind behind rfl
              have hpos : 0 < inside.length := List.length_pos_iff.2 hne
              obtain ⟨kept, hkept, hsub⟩ := ih after.length (by simp; omega) after rfl
              refine ⟨before ++ kept, ?_, ?_⟩
              · show bytesOf before ++ uncomment (bytesOf after) = _
                rw [hkept, bytesOf_append]
              · apply List.Sublist.append (List.Sublist.refl before)
                exact hsub.trans (List.sublist_append_right inside after)
          | none =>
              have hline : ∃ kept, bytesOf before ++ [] = bytesOf kept ∧
                  kept.Sublist (before ++ others) :=
                ⟨before, List.append_nil _, List.sublist_append_left ..⟩
              cases opening with
              | hash => exact hline
              | slashes => exact hline
              | block => exact ⟨before ++ others, htext, List.Sublist.refl _⟩

/-! ## §2. Words. -/

/-- A blank byte is one of a blank character. -/
theorem isBlank_iff_of_mem {c : Char} {b : UInt8} (hb : b ∈ String.utf8EncodeChar c) :
    isBlank b = true ↔ c = ' ' ∨ c = '\t' ∨ c = '\r' := by
  rw [isBlank_iff, Utf8.eq_byteOf_iff (by decide) hb, Utf8.eq_byteOf_iff (by decide) hb,
    Utf8.eq_byteOf_iff (by decide) hb]

/-- What a character can do to a word that has `seen` read: it gets into it or is left out of
it, maybe in the place of the last one; or it ends the word.  The bytes in front of it, and
those behind it, stay together. -/
def StepsOver (quoted : Bool) (seen : List Char) (c : Char) : Prop :=
  (∃ quoted' seen', seen'.Sublist (seen ++ [c]) ∧ ∀ rest,
    readChunk? quoted (bytesOf seen).reverse (String.utf8EncodeChar c ++ rest)
      = readChunk? quoted' (bytesOf seen').reverse rest) ∨
  ∃ endsLine, ∀ rest,
    readChunk? quoted (bytesOf seen).reverse (String.utf8EncodeChar c ++ rest)
      = some ⟨bytesOf seen, endsLine, rest⟩

/-- A quote opens a word, ends one, or takes the place of a backslash. -/
theorem stepsOver_quote (quoted : Bool) (seen : List Char) : StepsOver quoted seen '"' := by
  have hbytes : String.utf8EncodeChar '"' = [quote] := rfl
  unfold StepsOver
  simp only [hbytes, List.singleton_append]
  by_cases hescaped : (bytesOf seen).reverse.head? = some backslash
  · rw [List.head?_reverse] at hescaped
    obtain ⟨front, rfl⟩ := List.getLast?_eq_some_iff.1
      ((Utf8.getLast?_bytesOf_eq_iff (c := '\\') (by decide)).1 hescaped)
    refine .inl ⟨quoted, front ++ ['"'], ?_, fun rest => ?_⟩
    · rw [List.append_assoc]
      exact List.Sublist.append (List.Sublist.refl front) (List.sublist_cons_self ..)
    · rw [bytesOf_append, bytesOf_append, List.reverse_append, List.reverse_append]
      exact readChunk?_escapedQuote quoted (bytesOf front).reverse rest
  cases quoted with
  | true =>
      refine .inr ⟨false, fun rest => ?_⟩
      rw [readChunk?_closing hescaped, List.reverse_reverse]
  | false =>
      cases hseen : (bytesOf seen).reverse with
      | nil =>
          refine .inl ⟨true, [], List.nil_sublist _, readChunk?_opening⟩
      | cons last before =>
          rw [hseen, List.head?_cons] at hescaped
          refine .inr ⟨false, fun rest => ?_⟩
          rw [readChunk?_endingQuote false (fun h => hescaped (congrArg some h)), ← hseen,
            List.reverse_reverse]

/-- A blank in front of a word is left out, and one behind it ends it. -/
theorem stepsOver_blank (seen : List Char) {c : Char} (hblank : c = ' ' ∨ c = '\t' ∨ c = '\r') :
    StepsOver false seen c := by
  have hlt : c.toNat < 0x80 := by
    rcases hblank with rfl | rfl | rfl <;> decide
  have hb : isBlank (byteOf c) = true := by
    rwa [isBlank_iff_of_mem ((Utf8.byteOf_mem_encodeChar_iff hlt).2 rfl)]
  unfold StepsOver
  rw [Utf8.encodeChar_of_lt hlt]
  cases seen with
  | nil => exact .inl ⟨false, [], List.nil_sublist _, readChunk?_blank hb []⟩
  | cons first others =>
      refine .inr ⟨false, fun rest => ?_⟩
      show readChunk? false _ (byteOf c :: rest) = _
      rw [readChunk?_blank hb, if_neg, List.reverse_reverse]
      simp [bytesOf_cons]

/-- All bytes of any other character get into the word. -/
theorem stepsOver_plain {quoted : Bool} (seen : List Char) {c : Char} (hline : c ≠ '\n')
    (hquote : c ≠ '"') (hblank : quoted = false → ¬(c = ' ' ∨ c = '\t' ∨ c = '\r')) :
    StepsOver quoted seen c := by
  have hnewline : newline ∉ String.utf8EncodeChar c :=
    mt (Utf8.byteOf_mem_encodeChar_iff (c := '\n') (by decide)).1 hline
  have hescape : escape (String.utf8EncodeChar c) = String.utf8EncodeChar c :=
    escape_of_not_mem (mt (Utf8.byteOf_mem_encodeChar_iff (c := '"') (by decide)).1 hquote)
  have hkeep (hquoted : quoted = false) (b : UInt8) (hb : b ∈ String.utf8EncodeChar c) :
      isBlank b = false := by
    rw [Bool.eq_false_iff, ne_eq, isBlank_iff_of_mem hb]
    exact hblank hquoted
  refine .inl ⟨quoted, seen ++ [c], List.Sublist.refl _, fun rest => ?_⟩
  have hread := readChunk?_escape hnewline hkeep (bytesOf seen).reverse rest
  rw [hescape, ← List.reverse_append] at hread
  rw [bytesOf_append, bytesOf_singleton]
  exact hread

/-- **One character is read as a whole**, whichever it is. -/
theorem stepsOver (quoted : Bool) (seen : List Char) (c : Char) : StepsOver quoted seen c := by
  by_cases hline : c = '\n'
  · subst hline
    refine .inr ⟨true, fun rest => ?_⟩
    show readChunk? quoted _ (newline :: rest) = _
    rw [readChunk?_newline, List.reverse_reverse]
  by_cases hquote : c = '"'
  · subst hquote
    exact stepsOver_quote quoted seen
  by_cases hblank : quoted = false ∧ (c = ' ' ∨ c = '\t' ∨ c = '\r')
  · obtain ⟨rfl, hblank⟩ := hblank
    exact stepsOver_blank seen hblank
  · exact stepsOver_plain seen hline hquote fun hquoted hc => hblank ⟨hquoted, hc⟩

/-- **The bytes of a word are those of a text**, and so are those behind it; the word has only
characters that are read for it. -/
theorem readChunk?_bytesOf {quoted : Bool} {seen chars : List Char} {k : Chunk}
    (h : readChunk? quoted (bytesOf seen).reverse (bytesOf chars) = some k) :
    ∃ word after, k.bytes = bytesOf word ∧ k.rest = bytesOf after ∧
      (word ++ after).Sublist (seen ++ chars) := by
  induction chars generalizing quoted seen with
  | nil =>
      have hread : readChunk? quoted (bytesOf seen).reverse [] = some k := h
      rw [readChunk?, List.reverse_reverse] at hread
      split at hread
      · cases hread
      · cases hread
        exact ⟨seen, [], rfl, rfl, List.Sublist.refl _⟩
  | cons c chars ih =>
      rw [bytesOf_cons] at h
      rcases stepsOver quoted seen c with ⟨quoted', seen', hsub, hgoes⟩ | ⟨ends, hends⟩
      · rw [hgoes] at h
        obtain ⟨word, after, hbytes, hrest, hword⟩ := ih h
        refine ⟨word, after, hbytes, hrest, hword.trans ?_⟩
        have happend : seen ++ c :: chars = (seen ++ [c]) ++ chars := by simp
        rw [happend]
        exact hsub.append (List.Sublist.refl chars)
      · rw [hends] at h
        cases h
        refine ⟨seen, chars, rfl, rfl, ?_⟩
        exact (List.Sublist.refl seen).append (List.sublist_cons_self c chars)

/-! ## §3. The words of a text. -/

/-- **The next word of a text** has its text as its bytes, and behind it there is a text. -/
theorem Cursor.next?_bytesOf {c d : Cursor} {w : Word} {chars : List Char}
    (hc : c.rest = bytesOf chars) (h : c.next? = some (w, d)) :
    ∃ k after, readChunk? false [] c.rest = some k ∧ k.bytes = Utf8.encode w.text ∧
      d.rest = bytesOf after ∧ (w.text.toList ++ after).Sublist chars := by
  unfold Cursor.next? at h
  split at h
  · cases h
  · next k hk =>
    cases h
    have hread := hk
    rw [hc] at hread
    obtain ⟨word, after, hbytes, hrest, hsub⟩ := @readChunk?_bytesOf false [] chars k hread
    have htext : Utf8.text k.bytes = String.ofList word := by
      rw [hbytes, ← Utf8.encode_ofList, Utf8.text_encode]
    refine ⟨k, after, hk, ?_, hrest, ?_⟩
    · rw [htext, hbytes, Utf8.encode_ofList]
    · rw [htext, String.toList_ofList]
      exact hsub

/-- Behind every word of a text there is a text. -/
theorem Cursor.skip_bytesOf (i : Nat) {c : Cursor} {chars : List Char}
    (hc : c.rest = bytesOf chars) : ∃ after, (c.skip i).rest = bytesOf after := by
  induction i generalizing c chars with
  | zero => exact ⟨chars, hc⟩
  | succ i ih =>
      cases hn : c.next? with
      | none =>
          rw [Cursor.skip, hn]
          exact ⟨chars, hc⟩
      | some step =>
          obtain ⟨-, after, -, -, hafter, -⟩ := Cursor.next?_bytesOf hc hn
          rw [Cursor.skip_of_next? hn]
          exact ih hafter

/-- The words of a text have its characters, in their order. -/
theorem Cursor.words_bytesOf {c : Cursor} {chars : List Char} (hc : c.rest = bytesOf chars) :
    (c.words.flatMap (·.text.toList)).Sublist chars := by
  fun_induction Cursor.words c generalizing chars with
  | case1 => exact List.nil_sublist _
  | case2 c w d hn ih =>
      obtain ⟨-, after, -, -, hafter, hsub⟩ := Cursor.next?_bytesOf hc hn
      rw [List.flatMap_cons]
      exact ((List.Sublist.refl _).append (ih hafter)).trans hsub

/-- The words that are made of a text: the bytes of each are those of its text, so reading them
as one loses nothing and puts nothing in, and they have the characters of the whole, in their
order. -/
def ReadsAsText (text : String) : Prop :=
  let start := Cursor.start (Utf8.encode text)
  (∀ i w, start.words[i]? = some w →
    ∃ k, readChunk? false [] (start.skip i).rest = some k ∧ k.bytes = Utf8.encode w.text) ∧
  (start.words.flatMap (·.text.toList)).Sublist text.toList

/-- **Text survives.**  What is left of a text without its comments is a text, with some of the
characters of the whole in their order; and all words of a text, and so those of that one,
have their texts as their bytes, again with some of its characters in their order. -/
theorem text_survives (text : String) :
    ReadsAsText text ∧
      ∃ kept : String, uncomment (Utf8.encode text) = Utf8.encode kept ∧
        kept.toList.Sublist text.toList ∧ ReadsAsText kept := by
  have hreads (text : String) : ReadsAsText text := by
    constructor
    · intro i w hw
      obtain ⟨rest, hrest⟩ := Cursor.skip_bytesOf (c := Cursor.start (Utf8.encode text)) i rfl
      obtain ⟨k, -, hk, hbytes, -⟩ := Cursor.next?_bytesOf hrest (Cursor.next?_skip hw)
      exact ⟨k, hk, hbytes⟩
    · exact Cursor.words_bytesOf rfl
  obtain ⟨kept, hkept, hsub⟩ := uncomment_bytesOf text.toList
  refine ⟨hreads text, String.ofList kept, ?_, ?_, hreads _⟩
  · rw [Utf8.encode_ofList]
    exact hkept
  · rw [String.toList_ofList]
    exact hsub

end RuleScript.Script
