/-
  RuleScript.Proofs.Environment.Expansion
  ───────────────────────────────────────
  **Expansion goes over a word once.**

  A word is text with references in it.  The text between two of them may have any
  openings, dollar signs and parentheses as long as it has no reference of its own, and
  such a word is cut where the references were put: none is lost to an opening before it,
  and none is made up of what stands around it.  Values are put in all at once, so what
  they spell together with their neighbours is never read.

  Main results:
    • `pieces_append_reference` — the first reference of a text is the first to be cut out.
    • `Composed.exists_word` — every word is text with references in it.
    • `expand_composed` — what a word expands to, and the failure that is reported.
-/
import Mathlib
import RuleScript.Proofs.Environment.References

namespace RuleScript

namespace Reference

/-! ## §1. Words with references in them. -/

/-- A reference, and the text behind it up to the next one. -/
structure Segment where
  path : List Char
  behind : List Char
  path_ne_nil : path ≠ []
  path_chars : path.all isPathChar = true
  free : Free behind

/-- A text in front, and references with text behind them. -/
structure Composed where
  front : List Char
  segments : List Segment
  free : Free front

namespace Segment

/-- The reference as it is written. -/
def written (g : Segment) : List Char := ['$', '('] ++ g.path ++ [')']

/-- What the reference reads. -/
def value (env : Environment) (g : Segment) : Except PathError Value :=
  env.read (String.ofList g.path)

/-- The text of the value, or the reference itself where there is none. -/
def filled (env : Environment) (g : Segment) : List Char :=
  match g.value env with
  | .ok value => value.text.toList
  | .error _ => g.written

end Segment

namespace Composed

/-- The whole word. -/
def word (c : Composed) : String :=
  String.ofList (c.front ++ c.segments.flatMap fun g => g.written ++ g.behind)

/-- The word with values in place of the references. -/
def filled (env : Environment) (c : Composed) : String :=
  String.ofList (c.front ++ c.segments.flatMap fun g => g.filled env ++ g.behind)

end Composed

/-! ## §2. Where a word is cut. -/

/-- A reference at the start of a text is cut out first. -/
theorem pieces_reference {path : List Char} (hne : path ≠ []) (hall : path.all isPathChar = true)
    (rest : List Char) :
    pieces ((Piece.reference path).source ++ rest) = .reference path :: pieces rest := by
  have hread : (if '$' = '$' ∧ ('(' :: (path ++ ')' :: rest)).head? = some '('
      then readPath? (('(' :: (path ++ ')' :: rest)).drop 1) else none) = some (path, rest) := by
    rw [if_pos ⟨rfl, rfl⟩, List.drop_one, List.tail_cons, readPath?_append hne hall]
  have hsource : (Piece.reference path).source ++ rest = '$' :: '(' :: (path ++ ')' :: rest) := by
    rw [source_reference, List.cons_append, List.cons_append, List.append_assoc,
      List.singleton_append]
  rw [hsource, pieces]
  split
  · next path' after h =>
    rw [hread] at h
    cases h
    rfl
  · next h =>
    rw [hread] at h
    cases h

/-- **The first reference of a text is the first to be cut out**, whatever openings stand in
front of it: an opening takes in no dollar sign, so what it opens would end before it. -/
theorem pieces_append_reference {text path : List Char} (htext : Free text) (hne : path ≠ [])
    (hall : path.all isPathChar = true) (rest : List Char) :
    pieces (text ++ ((Piece.reference path).source ++ rest))
      = text.map .char ++ .reference path :: pieces rest := by
  induction text with
  | nil => exact pieces_reference hne hall rest
  | cons c text ih =>
      rw [List.cons_append, pieces]
      split
      · next path' after hread =>
        obtain ⟨rfl, hopen, hne', hall'⟩ := eq_of_opening hread
        have hdollar : text ++ '$' :: '(' :: (path ++ ')' :: rest)
            = '(' :: (path' ++ [')']) ++ after := by
          simpa [source_reference] using hopen
        obtain ⟨between, hbefore, -⟩ := split_at_dollar hall' hdollar
        refine absurd ⟨[], between, ?_⟩ (htext path' hne' hall')
        rw [hbefore]
        rfl
      · rw [ih htext.tail, List.map_cons, List.cons_append]

/-- A reference that stands in a text begins at its first character or stands behind that. -/
theorem Free.cons {c : Char} {front behind : List Char}
    (hread : (if c = '$' ∧ (front ++ behind).head? = some '('
      then readPath? ((front ++ behind).drop 1) else none) = none)
    (hfree : Free front) : Free (c :: front) := by
  intro path hne hall hstands
  rcases List.infix_cons_iff.1 hstands with hfirst | hlater
  · exact not_prefix_of_opening hread hne hall (hfirst.trans (List.prefix_append (c :: front) behind))
  · exact hfree path hne hall hlater

/-- **Every word is text with references in it.** -/
theorem Composed.exists_word (word : String) : ∃ c : Composed, c.word = word := by
  suffices h : ∀ s : List Char, ∃ c : Composed,
      c.front ++ c.segments.flatMap (fun g => g.written ++ g.behind) = s by
    obtain ⟨c, hc⟩ := h word.toList
    exact ⟨c, by rw [Composed.word, hc, String.ofList_toList]⟩
  intro s
  fun_induction pieces s with
  | case1 => exact ⟨⟨[], [], free_of_not_mem List.not_mem_nil⟩, rfl⟩
  | case2 c rest path after hread ih =>
      obtain ⟨rfl, rfl, hne, hall⟩ := eq_of_opening hread
      obtain ⟨⟨front, segments, hfree⟩, rfl⟩ := ih
      refine ⟨⟨[], ⟨path, front, hne, hall, hfree⟩ :: segments, free_of_not_mem List.not_mem_nil⟩, ?_⟩
      simp [Segment.written]
  | case3 c rest hread ih =>
      obtain ⟨⟨front, segments, hfree⟩, rfl⟩ := ih
      exact ⟨⟨c :: front, segments, Free.cons hread hfree⟩, rfl⟩

/-- The pieces of a word, the references where they were put. -/
theorem Composed.pieces_word (c : Composed) :
    pieces c.word.toList = c.front.map .char
      ++ c.segments.flatMap fun g => .reference g.path :: g.behind.map .char := by
  obtain ⟨front, segments, hfree⟩ := c
  rw [Composed.word, String.toList_ofList]
  induction segments generalizing front with
  | nil =>
      rw [List.flatMap_nil, List.flatMap_nil, List.append_nil, List.append_nil,
        pieces_of_free hfree]
  | cons g segments ih =>
      rw [List.flatMap_cons, List.flatMap_cons, List.append_assoc]
      show pieces (front ++ ((Piece.reference g.path).source ++ _)) = _
      rw [pieces_append_reference hfree g.path_ne_nil g.path_chars, ih g.behind g.free,
        List.cons_append]

/-! ## §3. Expansion. -/

theorem Segment.value?_reference (env : Environment) (g : Segment) :
    (Piece.reference g.path).value? env = some (g.value env) := rfl

theorem Segment.text_reference (env : Environment) (g : Segment) :
    (Piece.reference g.path).text env = g.filled env := by
  unfold Piece.text Segment.filled
  rw [g.value?_reference]
  cases g.value env <;> rfl

section
variable (env : Environment) (g : Segment)

theorem Segment.failure?_eq_some_iff {e : PathError} :
    (Piece.reference g.path).failure? env = some e ↔ g.value env = .error e := by
  unfold Piece.failure?
  rw [g.value?_reference]
  cases g.value env <;> simp

theorem Segment.failure?_eq_none_iff :
    (Piece.reference g.path).failure? env = none ↔ ∃ value, g.value env = .ok value := by
  unfold Piece.failure?
  rw [g.value?_reference]
  cases g.value env <;> simp

end

/-- The text of a word after expansion. -/
theorem Composed.text_expand (env : Environment) (c : Composed) :
    (env.expand c.word).text = c.filled env := by
  have hsegment (g : Segment) : (Piece.reference g.path :: g.behind.map Piece.char).flatMap
      (·.text env) = g.filled env ++ g.behind := by
    rw [List.flatMap_cons, flatMap_text_char, g.text_reference]
  show String.ofList ((pieces c.word.toList).flatMap (·.text env)) = _
  rw [c.pieces_word, List.flatMap_append, flatMap_text_char, List.flatMap_assoc]
  simp only [hsegment]
  rfl

/-- The failure of a word is that of the first reference that has one. -/
theorem Composed.failure_expand (env : Environment) (c : Composed) :
    (env.expand c.word).failure
      = c.segments.findSome? fun g => (Piece.reference g.path).failure? env := by
  show (pieces c.word.toList).findSome? (·.failure? env) = _
  rw [c.pieces_word, List.findSome?_append, findSome?_failure_char, Option.none_or]
  induction c.segments with
  | nil => rfl
  | cons g segments ih =>
      rw [List.flatMap_cons, List.cons_append, List.findSome?_cons, List.findSome?_cons,
        List.findSome?_append, findSome?_failure_char, Option.none_or, ih]

end Reference

namespace Environment

open Reference

/-- **Expansion puts in all values at once.**  A word becomes its text with the values of its
references in between, and those references themselves that read nothing; what has been put in
is not looked at.  The failure that is reported is that of the leftmost one among them, and
there is none just where all references read something. -/
theorem expand_composed (env : Environment) (c : Composed) :
    (env.expand c.word).text = c.filled env ∧
      ((env.expand c.word).failure = none ↔
        ∀ g ∈ c.segments, ∃ value, g.value env = .ok value) ∧
      ∀ e, (env.expand c.word).failure = some e ↔
        ∃ before g after, c.segments = before ++ g :: after ∧
          (∀ h ∈ before, ∃ value, h.value env = .ok value) ∧ g.value env = .error e := by
  refine ⟨c.text_expand env, ?_, ?_⟩
  · rw [c.failure_expand, List.findSome?_eq_none_iff]
    simp only [Segment.failure?_eq_none_iff]
  · intro e
    rw [c.failure_expand, List.findSome?_eq_some_iff]
    simp only [Segment.failure?_eq_none_iff, Segment.failure?_eq_some_iff]
    constructor
    · rintro ⟨before, g, after, hsegments, hfails, hbefore⟩
      exact ⟨before, g, after, hsegments, hbefore, hfails⟩
    · rintro ⟨before, g, after, hsegments, hbefore, hfails⟩
      exact ⟨before, g, after, hsegments, hfails, hbefore⟩

/-- What a value and its neighbours make up is no reference. -/
example :
    (((Environment.empty []).own "a" (.string "")).own "b" (.string "$(a)")).expand
        "$(b) $($(a)b)$(b$(c)"
      = ⟨"$(a) $(b)$(b$(c)", some (.unknownRoot "c")⟩ := by
  cbv

end Environment

end RuleScript
