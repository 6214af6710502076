/-
  RuleScript.Proofs.Script.Layout
  ───────────────────────────────
  **Scripts as they are laid out.**

  A manuscript is a script with its layout in view: the words of every statement
  with the blanks between them, and blanks and ends of lines around the
  statements.  Where the layout is sound and the text has no comments in it, the
  statements that are read from the text are the ones that were written, each on
  the line of its first word, with nothing but blank statements in between.

  Main results:
    • `effective_statements_text` — what is read from a manuscript is what it
      says.
-/
import RuleScript.Proofs.Script.Comments
import RuleScript.Proofs.Script.Reading
import RuleScript.Proofs.Script.Spelling

namespace RuleScript.Script

/-! ## §1. Blank statements. -/

/-- The statements that are not blank. -/
def effective (items : List Located) : List Located :=
  items.filter (·.statement != .blank)

theorem effective_readStatements_empty (n : Nat) (words : List Word) :
    effective (readStatements (⟨"", n⟩ :: words)) = effective (readStatements words) := by
  rw [readStatements_cons]
  rfl

theorem effective_cons {item : Located} (h : item.statement.complete = true)
    (items : List Located) : effective (item :: items) = item :: effective items := by
  have hne : item.statement ≠ .blank := by
    intro hblank
    rw [hblank] at h
    cases h
  exact List.filter_cons_of_pos (bne_iff_ne.2 hne)

/-! ## §2. Layout. -/

/-- A blank or the end of a line. -/
def isLayout (b : UInt8) : Bool := isBlank b || b == newline

/-- The words of one statement as they are written: each word after the first with
the blanks before it, and the layout after the last. -/
structure Phrase where
  first : Spelling
  others : List (List UInt8 × Spelling)
  gap : List UInt8
  deriving Repr, DecidableEq

namespace Phrase

/-- The words, without their layout. -/
def words (p : Phrase) : List String := p.first.text :: p.others.map (·.2.text)

/-- The bytes of the words and the blanks between them. -/
def bytes (p : Phrase) : List UInt8 :=
  p.first.bytes ++ p.others.flatMap fun other => other.1 ++ other.2.bytes

/-- Every word can be written in its way, and there is a blank between two words. -/
def readable (p : Phrase) : Bool :=
  p.first.readable
    && p.others.all (fun other => !other.1.isEmpty && other.1.all isBlank && other.2.readable)
    && p.gap.all isLayout

/-- The bytes of phrases one after the other. -/
def text (phrases : List Phrase) : List UInt8 := phrases.flatMap fun p => p.bytes ++ p.gap

/-- All phrases are readable, and there is a gap between two of them. -/
def allReadable : List Phrase → Bool
  | [] => true
  | p :: rest => p.readable && (rest.isEmpty || !p.gap.isEmpty) && allReadable rest

/-- The words of each phrase, with the line that the phrase starts on. -/
def placed (n : Nat) : List Phrase → List (Nat × List String)
  | [] => []
  | p :: rest => (n, p.words) :: placed (n + p.gap.count newline) rest

end Phrase

/-- A script as it is laid out. -/
structure Manuscript where
  /-- The layout before the first statement. -/
  lead : List UInt8
  phrases : List Phrase
  deriving Repr, DecidableEq

namespace Manuscript

/-- The bytes of the script. -/
def text (m : Manuscript) : List UInt8 := m.lead ++ Phrase.text m.phrases

/-- The layout is sound. -/
def readable (m : Manuscript) : Bool := m.lead.all isLayout && Phrase.allReadable m.phrases

/-- The manuscript has the words of these statements, each on its line. -/
def spells (m : Manuscript) (items : List Located) : Bool :=
  Phrase.placed (1 + m.lead.count newline) m.phrases
    == items.map fun item => (item.line, item.statement.words)

end Manuscript

/-! ## §3. Reading a manuscript. -/

/-- Layout gives blank statements only, and counts lines. -/
theorem effective_layout {gap : List UInt8} (h : ∀ b ∈ gap, isLayout b = true)
    (rest : List UInt8) (n : Nat) :
    effective (readStatements (Cursor.words ⟨gap ++ rest, n⟩))
      = effective (readStatements (Cursor.words ⟨rest, n + gap.count newline⟩)) := by
  induction gap generalizing n with
  | nil => rfl
  | cons b gap ih =>
      have hgap : ∀ c ∈ gap, isLayout c = true := by
        intro c hc
        exact h c (List.mem_cons_of_mem _ hc)
      rw [List.cons_append]
      by_cases hb : b = newline
      · subst hb
        rw [words_newline, effective_readStatements_empty, ih hgap, List.count_cons_self]
        rw [Nat.add_assoc, Nat.add_comm 1]
      · have hblank : isBlank b = true := by
          have := h b List.mem_cons_self
          rw [isLayout, Bool.or_eq_true, beq_iff_eq] at this
          exact this.resolve_right hb
        rw [words_blank hblank, ih hgap, List.count_cons_of_ne hb]

/-- A phrase gives its words.  What follows is left as it is, but for the one byte
that has ended the last word, and that one makes no difference to statements. -/
theorem words_phrase {p : Phrase} (hp : p.readable = true) {rest : List UInt8}
    (hrest : ∀ b ∈ rest.head?, isLayout b = true) (n : Nat) :
    ∃ tail, Cursor.words ⟨p.bytes ++ rest, n⟩ = p.words.map (⟨·, n⟩) ++ tail ∧
      effective (readStatements tail)
        = effective (readStatements (Cursor.words ⟨rest, n⟩)) := by
  obtain ⟨first, others, gap⟩ := p
  simp only [Phrase.readable, Bool.and_eq_true, List.all_eq_true] at hp
  obtain ⟨⟨hfirst, hothers⟩, -⟩ := hp
  unfold Phrase.bytes Phrase.words
  simp only at hfirst hothers ⊢
  -- Every word but the last is followed by blanks, and so is read on its own.
  induction others generalizing first with
  | nil =>
      simp only [List.flatMap_nil, List.append_nil, List.map_nil, List.map_cons]
      cases rest with
      | nil =>
          refine ⟨[], ?_, ?_⟩
          · rw [List.append_nil, words_spelling_end hfirst]
            rfl
          · rw [words_nil]
      | cons b rest =>
          by_cases hb : b = newline
          · subst hb
            -- A quoted word leaves the end of the line, and a bare one takes it.
            by_cases hq : first.quoted = true
            · refine ⟨Cursor.words ⟨newline :: rest, n⟩, ?_, rfl⟩
              rw [words_spelling_newline hfirst, if_pos hq]
              rfl
            · refine ⟨Cursor.words ⟨rest, n + 1⟩, ?_, ?_⟩
              · rw [words_spelling_newline hfirst, if_neg hq]
                rfl
              · rw [words_newline, effective_readStatements_empty]
          · have hblank : isBlank b = true := by
              have := hrest b rfl
              rw [isLayout, Bool.or_eq_true, beq_iff_eq] at this
              exact this.resolve_right hb
            refine ⟨_, words_spelling_blank hfirst n hblank rest, ?_⟩
            rw [words_blank hblank]
  | cons other others ih =>
      obtain ⟨blanks, spelling⟩ := other
      have hother := hothers _ List.mem_cons_self
      simp only [Bool.not_eq_true', List.isEmpty_eq_false_iff] at hother
      obtain ⟨⟨hne, hblanks⟩, hspelling⟩ := hother
      obtain ⟨b, blanks, rfl⟩ := List.exists_cons_of_ne_nil hne
      obtain ⟨tail, htail, heffective⟩ := ih spelling hspelling
        (fun o ho => hothers o (List.mem_cons_of_mem _ ho))
      refine ⟨tail, ?_, heffective⟩
      simp only [List.flatMap_cons, List.append_assoc, List.cons_append, List.map_cons]
      rw [words_spelling_blank hfirst n (hblanks b List.mem_cons_self),
        words_blanks fun c hc => hblanks c (List.mem_cons_of_mem _ hc)]
      rw [List.append_assoc] at htail
      rw [htail]
      rfl

/-- The statements that are read from phrases are the ones that they say. -/
theorem effective_phrases {phrases : List Phrase} (hp : Phrase.allReadable phrases = true)
    {items : List Located} {n : Nat}
    (hspells : Phrase.placed n phrases
      = items.map fun item => (item.line, item.statement.words))
    (hc : ∀ item ∈ items, item.statement.complete = true) :
    effective (readStatements (Cursor.words ⟨Phrase.text phrases, n⟩)) = items := by
  -- The line of the next phrase is carried along, as its gap counts lines.
  induction phrases generalizing items n with
  | nil =>
      rw [Phrase.placed] at hspells
      rw [List.map_eq_nil_iff.1 hspells.symm]
      show effective (readStatements (Cursor.words ⟨[], n⟩)) = []
      rw [words_nil, readStatements]
      rfl
  | cons p phrases ih =>
      cases items with
      | nil => cases hspells
      | cons item items =>
          simp only [Phrase.placed, List.map_cons, List.cons.injEq, Prod.mk.injEq] at hspells
          obtain ⟨⟨hline, hwords⟩, hspells⟩ := hspells
          simp only [Phrase.allReadable, Bool.and_eq_true, Bool.or_eq_true] at hp
          obtain ⟨⟨hreadable, hgap⟩, hrest⟩ := hp
          have hlayout : ∀ b ∈ p.gap, isLayout b = true := by
            simp only [Phrase.readable, Bool.and_eq_true, List.all_eq_true] at hreadable
            exact hreadable.2
          -- After the words comes the gap, or the end of the script.
          have hhead : ∀ b ∈ (p.gap ++ Phrase.text phrases).head?, isLayout b = true := by
            intro b hb
            cases hg : p.gap with
            | nil =>
                rw [hg] at hgap hb
                rcases hgap with hnone | hnone
                · rw [List.isEmpty_iff.1 hnone] at hb
                  cases hb
                · cases hnone
            | cons c gap =>
                rw [hg] at hb
                cases hb
                exact hlayout _ (hg ▸ List.mem_cons_self)
          obtain ⟨tail, htail, heffective⟩ := words_phrase hreadable hhead n
          have htext : Phrase.text (p :: phrases) = p.bytes ++ (p.gap ++ Phrase.text phrases) := by
            rw [Phrase.text, List.flatMap_cons, List.append_assoc]
            rfl
          have hitem := hc item List.mem_cons_self
          rw [htext, htail, hwords, readStatements_words hitem, hline, effective_cons hitem,
            heffective, effective_layout hlayout]
          rw [ih hrest hspells fun i hi => hc i (List.mem_cons_of_mem _ hi)]

/-- **What is read from a manuscript is what it says.** -/
theorem effective_statements_text {m : Manuscript} {items : List Located}
    (hm : m.readable = true) (hspells : m.spells items = true)
    (hc : ∀ item ∈ items, item.statement.complete = true) (hu : unmarked m.text = true) :
    effective (statements m.text) = items := by
  simp only [Manuscript.readable, Bool.and_eq_true, List.all_eq_true] at hm
  rw [Manuscript.spells, beq_iff_eq] at hspells
  unfold statements
  rw [uncomment_of_unmarked hu, Cursor.start, Manuscript.text, effective_layout hm.1]
  exact effective_phrases hm.2 hspells hc

end RuleScript.Script
