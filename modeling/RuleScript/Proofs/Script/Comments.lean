/-
  RuleScript.Proofs.Script.Comments
  ─────────────────────────────────
  **What is left out of a script.**

  Comments are taken out byte by byte.  Seen as a whole, a text is cut at the first marker
  that stands in it: what is in front stays, the comment goes as far as its marker says, and
  what is behind it is treated in the same way.  Markers may overlap, so the cut has to be
  the leftmost one: behind a slash, a marker that starts with a slash would have been found
  one byte earlier.

  Main results:
    • `unmarked_iff` — where no comment starts.
    • `Cut.exists_cut` / `Cut.eq_of_text_eq` — every text is cut in just one way.
    • `uncomment_by_cuts` — what is left of a text that is cut.
-/
import Mathlib.Logic.ExistsUnique
import RuleScript.Script.Uncommented

namespace RuleScript.Script

/-! ## §1. Where comments start and end. -/

theorem opensLineComment_cons (b : UInt8) (rest : List UInt8) :
    opensLineComment (b :: rest) = true ↔ b = hash ∨ (b = slash ∧ rest.head? = some slash) := by
  cases rest with
  | nil => simp [opensLineComment]
  | cons c rest => simp [opensLineComment]

theorem opensBlockComment_cons (b : UInt8) (rest : List UInt8) :
    opensBlockComment (b :: rest) = true ↔ b = slash ∧ rest.head? = some star := by
  cases rest with
  | nil => simp [opensBlockComment]
  | cons c rest => simp [opensBlockComment]

theorem afterBlock?_cons (a : UInt8) (s : List UInt8) :
    afterBlock? (a :: s)
      = if a = star ∧ s.head? = some slash then some s.tail else afterBlock? s := by
  cases s with
  | nil => simp [afterBlock?]
  | cons b rest => simp [afterBlock?]

theorem afterLine_suffix (s : List UInt8) : afterLine s <:+ s := by
  induction s with
  | nil => exact List.suffix_refl _
  | cons b rest ih =>
      rw [afterLine]
      split
      · exact List.suffix_cons b rest
      · exact ih.trans (List.suffix_cons b rest)

theorem afterBlock?_suffix {s after : List UInt8} (h : afterBlock? s = some after) :
    after <:+ s := by
  induction s with
  | nil => cases h
  | cons a rest ih =>
      rw [afterBlock?_cons] at h
      split at h
      · cases h
        exact (List.tail_suffix rest).trans (List.suffix_cons a rest)
      · exact (ih h).trans (List.suffix_cons a rest)

/-! ## §2. One step. -/

theorem uncomment_line {b : UInt8} {rest : List UInt8}
    (hline : opensLineComment (b :: rest) = true) :
    uncomment (b :: rest) = uncomment (afterLine rest) := by
  rw [uncomment, if_pos hline]

/-- A block comment ends where it is closed first; one that is not closed is text. -/
theorem uncomment_block {b : UInt8} {rest : List UInt8}
    (hline : opensLineComment (b :: rest) = false)
    (hblock : opensBlockComment (b :: rest) = true) :
    uncomment (b :: rest) = (afterBlock? (rest.drop 1)).elim (b :: rest) uncomment := by
  rw [uncomment, if_neg (Bool.eq_false_iff.1 hline), if_pos hblock]
  split
  · next after hafter => rw [hafter, Option.elim_some]
  · next hafter => rw [hafter, Option.elim_none]

theorem uncomment_plain {b : UInt8} {rest : List UInt8}
    (hline : opensLineComment (b :: rest) = false)
    (hblock : opensBlockComment (b :: rest) = false) :
    uncomment (b :: rest) = b :: uncomment rest := by
  rw [uncomment, if_neg (Bool.eq_false_iff.1 hline), if_neg (Bool.eq_false_iff.1 hblock)]

/-- A byte that is none of the markers' first ones starts no comment. -/
theorem uncomment_unmarked {b : UInt8} (hhash : b ≠ hash) (hslash : b ≠ slash)
    (rest : List UInt8) : uncomment (b :: rest) = b :: uncomment rest := by
  refine uncomment_plain ?_ ?_
  · rw [Bool.eq_false_iff, ne_eq, opensLineComment_cons]
    exact fun h => h.elim hhash fun h => hslash h.1
  · rw [Bool.eq_false_iff, ne_eq, opensBlockComment_cons]
    exact fun h => hslash h.1

/-- Nothing is put in where comments are taken out. -/
theorem uncomment_subset (s : List UInt8) : uncomment s ⊆ s := by
  fun_induction uncomment s with
  | case1 => exact List.Subset.refl _
  | case2 b rest hline ih =>
      have hrest : afterLine rest ⊆ rest := (afterLine_suffix rest).subset
      exact List.Subset.trans ih (List.Subset.trans hrest (List.subset_cons_self b rest))
  | case3 b rest hline hblock after hafter ih =>
      have hrest : after ⊆ rest :=
        ((afterBlock?_suffix hafter).trans (List.drop_suffix 1 rest)).subset
      exact List.Subset.trans ih (List.Subset.trans hrest (List.subset_cons_self b rest))
  | case4 b rest hline hblock hafter => exact List.Subset.refl _
  | case5 b rest hline hblock ih => exact List.cons_subset_cons b ih

/-! ## §3. Texts without a marker. -/

/-- No comment starts anywhere in the script. -/
def unmarked : List UInt8 → Bool
  | [] => true
  | b :: rest =>
      !opensLineComment (b :: rest) && !opensBlockComment (b :: rest) && unmarked rest

theorem uncomment_of_unmarked {s : List UInt8} (h : unmarked s = true) : uncomment s = s := by
  induction s with
  | nil => rw [uncomment]
  | cons b rest ih =>
      simp only [unmarked, Bool.and_eq_true, Bool.not_eq_true'] at h
      obtain ⟨⟨hline, hblock⟩, hrest⟩ := h
      rw [uncomment, hline, if_neg Bool.false_ne_true, hblock, if_neg Bool.false_ne_true,
        ih hrest]

/-- Two bytes stand in a text at its start, or further on. -/
theorem pair_infix_cons {x y a : UInt8} {s : List UInt8} :
    [x, y] <:+: a :: s ↔ (a = x ∧ s.head? = some y) ∨ [x, y] <:+: s := by
  rw [List.infix_cons_iff, List.cons_prefix_cons, List.singleton_prefix_iff_head?_eq_some, eq_comm]

/-- **Where no comment starts**, no marker stands. -/
theorem unmarked_iff {s : List UInt8} :
    unmarked s = true ↔ hash ∉ s ∧ ¬[slash, slash] <:+: s ∧ ¬[slash, star] <:+: s := by
  induction s with
  | nil => simp [unmarked]
  | cons b rest ih =>
      simp only [unmarked, Bool.and_eq_true, Bool.not_eq_true', Bool.eq_false_iff, ne_eq,
        opensLineComment_cons, opensBlockComment_cons, ih, pair_infix_cons, List.mem_cons]
      grind

/-! ## §4. Comments. -/

/-- How a comment is opened. -/
inductive Opening where
  | hash
  | slashes
  | block
  deriving Repr, DecidableEq

namespace Opening

/-- The marker that opens the comment. -/
def bytes : Opening → List UInt8
  | hash => [Script.hash]
  | slashes => [slash, slash]
  | block => [slash, star]

/-- The bytes that close it. -/
def closing : Opening → List UInt8
  | hash => [newline]
  | slashes => [newline]
  | block => [star, slash]

end Opening

/-- A comment, and what stands behind it if the comment is closed. -/
structure Comment where
  opening : Opening
  body : List UInt8
  behind? : Option (List UInt8)
  deriving Repr, DecidableEq

namespace Comment

/-- The bytes behind the marker. -/
def rest (c : Comment) : List UInt8 :=
  match c.behind? with
  | some behind => c.body ++ c.opening.closing ++ behind
  | none => c.body

/-- The bytes of the comment and of what stands behind it. -/
def text (c : Comment) : List UInt8 := c.opening.bytes ++ c.rest

/-- The comment goes up to where it is closed first: the end of its line, or the first `*/`. -/
def Sound (c : Comment) : Prop :=
  match c.opening, c.behind? with
  | .block, some _ => ∀ before after,
      c.body ++ [star, slash] = before ++ [star, slash] ++ after → after = []
  | .block, none => ¬[star, slash] <:+: c.body
  | _, _ => newline ∉ c.body

/-- What is left when the comment is taken out, and `strip` goes on behind it.  A block comment
that is never closed stays. -/
def left (strip : List UInt8 → List UInt8) (c : Comment) : List UInt8 :=
  match c.opening, c.behind? with
  | _, some behind => strip behind
  | .block, none => [slash, star] ++ c.body
  | _, none => []

end Comment

/-! ## §5. Where a comment ends. -/

/-- A line goes on over bytes that do not end it. -/
theorem afterLine_append {body : List UInt8} (h : newline ∉ body) (s : List UInt8) :
    afterLine (body ++ s) = afterLine s := by
  induction body with
  | nil => rfl
  | cons b body ih =>
      rw [List.mem_cons, not_or] at h
      rw [List.cons_append, afterLine, if_neg (Ne.symm h.1), ih h.2]

theorem afterLine_of_not_mem {s : List UInt8} (h : newline ∉ s) : afterLine s = [] := by
  rw [← List.append_nil s, afterLine_append h]
  rfl

/-- A block comment is not closed where no `*/` stands. -/
theorem afterBlock?_eq_none_iff {s : List UInt8} :
    afterBlock? s = none ↔ ¬[star, slash] <:+: s := by
  induction s with
  | nil => simp [afterBlock?]
  | cons a rest ih =>
      rw [afterBlock?_cons, pair_infix_cons]
      by_cases hclosed : a = star ∧ rest.head? = some slash
      · simp [hclosed]
      · rw [if_neg hclosed, ih]
        simp [hclosed]

/-- The `*/` behind a text is the only one if the text has none, and does not make one up with
the star. -/
theorem only_at_end_iff {body : List UInt8} :
    (∀ before after, body ++ [star, slash] = before ++ [star, slash] ++ after → after = []) ↔
      ¬[star, slash] <:+: body ++ [star] := by
  constructor
  · rintro h ⟨before, after, heq⟩
    have hnil : after ++ [slash] = [] := by
      apply h before
      rw [← List.append_assoc, heq]
      simp
    simp at hnil
  · intro h before after heq
    rcases List.eq_nil_or_concat after with hnil | ⟨others, last, rfl⟩
    · exact hnil
    · refine absurd ⟨before, others, ?_⟩ h
      have hlast : (body ++ [star]) ++ [slash] = (before ++ [star, slash] ++ others) ++ [last] := by
        simpa using heq
      exact (List.append_inj_left' hlast rfl).symm

/-- A block comment ends at the first `*/`. -/
theorem afterBlock?_append {body : List UInt8} (h : ¬[star, slash] <:+: body ++ [star])
    (behind : List UInt8) : afterBlock? (body ++ star :: slash :: behind) = some behind := by
  induction body with
  | nil => rfl
  | cons a body ih =>
      rw [List.cons_append, pair_infix_cons, not_or] at h
      have hhead : (body ++ star :: slash :: behind).head? = (body ++ [star]).head? := by
        cases body <;> rfl
      rw [List.cons_append, afterBlock?_cons, hhead, if_neg h.1]
      exact ih h.2

/-- What follows a block comment follows its first `*/`. -/
theorem exists_body_of_afterBlock? {s behind : List UInt8} (h : afterBlock? s = some behind) :
    ∃ body, ¬[star, slash] <:+: body ++ [star] ∧ s = body ++ star :: slash :: behind := by
  induction s with
  | nil => cases h
  | cons a rest ih =>
      rw [afterBlock?_cons] at h
      by_cases hclosed : a = star ∧ rest.head? = some slash
      · obtain ⟨rfl, hhead⟩ := hclosed
        obtain ⟨after, rfl⟩ := List.head?_eq_some_iff.1 hhead
        rw [if_pos ⟨rfl, rfl⟩] at h
        cases h
        exact ⟨[], by decide, rfl⟩
      · rw [if_neg hclosed] at h
        obtain ⟨body, hbody, rfl⟩ := ih h
        refine ⟨a :: body, ?_, rfl⟩
        have hhead : (body ++ star :: slash :: behind).head? = (body ++ [star]).head? := by
          cases body <;> rfl
        rw [hhead] at hclosed
        rw [List.cons_append, pair_infix_cons, not_or]
        exact ⟨hclosed, hbody⟩

/-- What follows the comment, if that is closed. -/
def Opening.after? (opening : Opening) (rest : List UInt8) : Option (List UInt8) :=
  match opening with
  | .block => afterBlock? rest
  | _ => if newline ∈ rest then some (afterLine rest) else none

/-! ## §6. One comment. -/

namespace Comment

/-- A comment is closed as its marker says. -/
theorem after?_rest {c : Comment} (h : c.Sound) : c.opening.after? c.rest = c.behind? := by
  obtain ⟨opening, body, behind?⟩ := c
  have hline (hbody : newline ∉ body) (behind : List UInt8) :
      (if newline ∈ body ++ [newline] ++ behind then some (afterLine (body ++ [newline] ++ behind))
        else none) = some behind := by
    rw [if_pos (by simp), List.append_assoc, afterLine_append hbody]
    rfl
  cases behind? with
  | some behind =>
      cases opening with
      | hash => exact hline h behind
      | slashes => exact hline h behind
      | block =>
          show afterBlock? (body ++ [star, slash] ++ behind) = some behind
          rw [List.append_assoc]
          exact afterBlock?_append (only_at_end_iff.1 h) behind
  | none =>
      cases opening with
      | hash => exact if_neg h
      | slashes => exact if_neg h
      | block => exact afterBlock?_eq_none_iff.2 h

/-- **Behind every marker stands a comment.** -/
theorem exists_rest (opening : Opening) (s : List UInt8) :
    ∃ c : Comment, c.Sound ∧ c.opening = opening ∧ c.rest = s := by
  have hline (opening : Opening) (hopening : opening.closing = [newline])
      (hsound : ∀ body behind?, (⟨opening, body, behind?⟩ : Comment).Sound ↔ newline ∉ body) :
      ∃ c : Comment, c.Sound ∧ c.opening = opening ∧ c.rest = s := by
    by_cases hend : newline ∈ s
    · obtain ⟨body, behind, rfl, hbody⟩ := List.eq_append_cons_of_mem hend
      refine ⟨⟨opening, body, some behind⟩, (hsound ..).2 hbody, rfl, ?_⟩
      show body ++ opening.closing ++ behind = _
      rw [hopening, List.append_assoc]
      rfl
    · exact ⟨⟨opening, s, none⟩, (hsound ..).2 hend, rfl, rfl⟩
  cases opening with
  | hash => exact hline .hash rfl fun body behind? => by cases behind? <;> exact Iff.rfl
  | slashes => exact hline .slashes rfl fun body behind? => by cases behind? <;> exact Iff.rfl
  | block =>
      cases hclosed : afterBlock? s with
      | none => exact ⟨⟨.block, s, none⟩, afterBlock?_eq_none_iff.1 hclosed, rfl, rfl⟩
      | some behind =>
          obtain ⟨body, hbody, rfl⟩ := exists_body_of_afterBlock? hclosed
          exact ⟨⟨.block, body, some behind⟩, only_at_end_iff.2 hbody, rfl, List.append_assoc ..⟩

/-- Markers, and what is behind them, are told apart. -/
theorem bytes_append_inj {o o' : Opening} {s t : List UInt8} (h : o.bytes ++ s = o'.bytes ++ t) :
    o = o' ∧ s = t := by
  cases o <;> cases o' <;>
    simp [Opening.bytes, Script.hash, slash, star] at h ⊢ <;> exact h

/-- **A comment is told by its text.** -/
theorem eq_of_text_eq {c c' : Comment} (h : c.Sound) (h' : c'.Sound) (heq : c.text = c'.text) :
    c = c' := by
  obtain ⟨hopening, hrest⟩ := bytes_append_inj heq
  have hbehind : c.behind? = c'.behind? := by
    rw [← after?_rest h, ← after?_rest h', hopening, hrest]
  obtain ⟨opening, body, behind?⟩ := c
  obtain ⟨opening', body', behind?'⟩ := c'
  obtain rfl : opening = opening' := hopening
  obtain rfl : behind? = behind?' := hbehind
  cases behind? with
  | none =>
      obtain rfl : body = body' := hrest
      rfl
  | some behind =>
      have hbody : body ++ (opening.closing ++ behind) = body' ++ (opening.closing ++ behind) := by
        rw [← List.append_assoc, ← List.append_assoc]
        exact hrest
      rw [List.append_cancel_right hbody]

/-- A line comment is left out with the end of its line. -/
theorem uncomment_line_marker {o : Opening} (ho : o ≠ .block) (s : List UInt8) :
    uncomment (o.bytes ++ s) = (o.after? s).elim [] uncomment := by
  have hrest : uncomment (afterLine s)
      = (if newline ∈ s then some (afterLine s) else none).elim [] uncomment := by
    by_cases hend : newline ∈ s
    · rw [if_pos hend, Option.elim_some]
    · rw [if_neg hend, afterLine_of_not_mem hend, uncomment, Option.elim_none]
  cases o with
  | hash => exact (uncomment_line (by simp [opensLineComment_cons])).trans hrest
  | slashes =>
      have hopens : opensLineComment (slash :: slash :: s) = true := by
        simp [opensLineComment_cons]
      show uncomment (slash :: slash :: s) = _
      rw [uncomment_line hopens, afterLine, if_neg (by decide)]
      exact hrest
  | block => exact absurd rfl ho

theorem uncomment_block_marker (s : List UInt8) :
    uncomment ([slash, star] ++ s) = (afterBlock? s).elim ([slash, star] ++ s) uncomment := by
  show uncomment (slash :: star :: s) = _
  apply uncomment_block
  · rw [Bool.eq_false_iff, ne_eq, opensLineComment_cons, List.head?_cons]
    decide
  · rw [opensBlockComment_cons]
    exact ⟨rfl, rfl⟩

/-- **What is left of one comment.** -/
theorem uncomment_text {c : Comment} (h : c.Sound) : uncomment c.text = c.left uncomment := by
  have hafter := after?_rest h
  obtain ⟨opening, body, behind?⟩ := c
  unfold text left
  by_cases hopening : opening = .block
  · subst hopening
    show uncomment ([slash, star] ++ _) = _
    rw [uncomment_block_marker, show afterBlock? _ = behind? from hafter]
    cases behind? <;> rfl
  · rw [uncomment_line_marker hopening, hafter]
    cases behind? with
    | some behind => rfl
    | none => cases opening <;> first | rfl | exact absurd rfl hopening

/-- A comment starts with its marker. -/
theorem opens (c : Comment) : opensLineComment c.text = true ∨ opensBlockComment c.text = true := by
  obtain ⟨opening, body, behind?⟩ := c
  cases opening with
  | hash => exact .inl ((opensLineComment_cons ..).2 (.inl rfl))
  | slashes => exact .inl ((opensLineComment_cons ..).2 (.inr ⟨rfl, rfl⟩))
  | block => exact .inr ((opensBlockComment_cons ..).2 ⟨rfl, rfl⟩)

/-- The first byte of a marker. -/
theorem head?_text (c : Comment) :
    c.text.head? = some (if c.opening = .hash then hash else slash) := by
  obtain ⟨opening, body, behind?⟩ := c
  cases opening <;> rfl

/-- **Where a marker stands, a comment does.** -/
theorem exists_text {s : List UInt8}
    (h : opensLineComment s = true ∨ opensBlockComment s = true) :
    ∃ c : Comment, c.Sound ∧ c.text = s := by
  suffices hmarker : ∃ (o : Opening) (t : List UInt8), s = o.bytes ++ t by
    obtain ⟨o, t, rfl⟩ := hmarker
    obtain ⟨c, hsound, rfl, rfl⟩ := exists_rest o t
    exact ⟨c, hsound, rfl⟩
  cases s with
  | nil => simp [opensLineComment, opensBlockComment] at h
  | cons b rest =>
      rw [opensLineComment_cons, opensBlockComment_cons] at h
      rcases h with (rfl | ⟨rfl, hslash⟩) | ⟨rfl, hstar⟩
      · exact ⟨.hash, rest, rfl⟩
      · obtain ⟨t, rfl⟩ := List.head?_eq_some_iff.1 hslash
        exact ⟨.slashes, t, rfl⟩
      · obtain ⟨t, rfl⟩ := List.head?_eq_some_iff.1 hstar
        exact ⟨.block, t, rfl⟩

end Comment

/-! ## §7. Texts, cut at their first comment. -/

/-- A text up to its first comment, and that comment, if there is one. -/
structure Cut where
  front : List UInt8
  comment? : Option Comment
  deriving Repr, DecidableEq

namespace Cut

/-- The whole text. -/
def text (cut : Cut) : List UInt8 := cut.front ++ cut.comment?.elim [] Comment.text

/-- What is left when the first comment is taken out, and `strip` goes on behind it. -/
def left (strip : List UInt8 → List UInt8) (cut : Cut) : List UInt8 :=
  cut.front ++ cut.comment?.elim [] (Comment.left strip)

/-- There is no marker in front of the comment, and none that the last byte in front of it makes
up with its first one. -/
def Sound (cut : Cut) : Prop :=
  hash ∉ cut.front ∧ ¬[slash, slash] <:+: cut.front ∧ ¬[slash, star] <:+: cut.front ∧
    ∀ c ∈ cut.comment?, c.Sound ∧ (c.opening ≠ .hash → cut.front.getLast? ≠ some slash)

/-- **No comment starts in front of the first one**, and what starts none may stand there. -/
theorem sound_cons {b : UInt8} {front : List UInt8} {comment? : Option Comment} :
    (⟨b :: front, comment?⟩ : Cut).Sound ↔
      opensLineComment (b :: (⟨front, comment?⟩ : Cut).text) = false ∧
      opensBlockComment (b :: (⟨front, comment?⟩ : Cut).text) = false ∧
      (⟨front, comment?⟩ : Cut).Sound := by
  have hne : star ≠ hash ∧ star ≠ slash := by decide
  unfold Sound text
  simp only [Bool.eq_false_iff, ne_eq, opensLineComment_cons, opensBlockComment_cons,
    pair_infix_cons, List.mem_cons]
  cases front with
  | nil =>
      -- The byte may make up a marker with the first one of the comment only.
      cases comment? with
      | none => grind
      | some c =>
          simp only [Option.elim_some, List.nil_append, Comment.head?_text]
          grind
  | cons a front =>
      simp only [List.cons_append, List.head?_cons, List.getLast?_cons_cons]
      grind

/-- **What is left of a text** when its first comment is taken out. -/
theorem uncomment_text {cut : Cut} (h : cut.Sound) : uncomment cut.text = cut.left uncomment := by
  obtain ⟨front, comment?⟩ := cut
  induction front with
  | nil =>
      cases comment? with
      | none => exact uncomment.eq_1
      | some c => exact Comment.uncomment_text (h.2.2.2 c rfl).1
  | cons b front ih =>
      obtain ⟨hline, hblock, hrest⟩ := sound_cons.1 h
      show uncomment (b :: (⟨front, comment?⟩ : Cut).text) = b :: (⟨front, comment?⟩ : Cut).left _
      rw [uncomment_plain hline hblock, ih hrest]

/-- **Every text is cut** at its first comment, or has none. -/
theorem exists_cut (s : List UInt8) : ∃ cut : Cut, cut.Sound ∧ cut.text = s := by
  induction s with
  | nil => exact ⟨⟨[], none⟩, by simp [Sound], rfl⟩
  | cons b rest ih =>
      by_cases hopens : opensLineComment (b :: rest) = true ∨ opensBlockComment (b :: rest) = true
      · obtain ⟨c, hc, htext⟩ := Comment.exists_text hopens
        exact ⟨⟨[], some c⟩, by simpa [Sound] using hc, htext⟩
      · rw [not_or, Bool.not_eq_true, Bool.not_eq_true] at hopens
        obtain ⟨⟨front, comment?⟩, hcut, rfl⟩ := ih
        exact ⟨⟨b :: front, comment?⟩, sound_cons.2 ⟨hopens.1, hopens.2, hcut⟩, rfl⟩

/-- What stands in front of the first comment is no comment. -/
theorem text_cons_ne {b : UInt8} {front : List UInt8} {comment? : Option Comment}
    (h : (⟨b :: front, comment?⟩ : Cut).Sound) (other? : Option Comment) :
    (⟨b :: front, comment?⟩ : Cut).text ≠ (⟨[], other?⟩ : Cut).text := by
  intro heq
  cases other? with
  | none => cases heq
  | some c =>
      obtain ⟨hline, hblock, -⟩ := sound_cons.1 h
      have htext : b :: (⟨front, comment?⟩ : Cut).text = c.text := heq
      rw [htext] at hline hblock
      rcases c.opens with hopens | hopens
      · rw [hline] at hopens
        cases hopens
      · rw [hblock] at hopens
        cases hopens

/-- **There is one way to cut a text.** -/
theorem eq_of_text_eq {cut cut' : Cut} (h : cut.Sound) (h' : cut'.Sound)
    (heq : cut.text = cut'.text) : cut = cut' := by
  obtain ⟨front, comment?⟩ := cut
  obtain ⟨front', comment?'⟩ := cut'
  induction front generalizing front' with
  | nil =>
      cases front' with
      | cons b front' => exact absurd heq.symm (text_cons_ne h' comment?)
      | nil =>
          have hnone (c : Comment) : c.text ≠ [] := by
            intro hnil
            have hhead := c.head?_text
            rw [hnil] at hhead
            cases hhead
          cases comment? with
          | none =>
              cases comment?' with
              | none => rfl
              | some c' => exact absurd heq.symm (hnone c')
          | some c =>
              cases comment?' with
              | none => exact absurd heq (hnone c)
              | some c' =>
                  rw [Comment.eq_of_text_eq (h.2.2.2 c rfl).1 (h'.2.2.2 c' rfl).1 heq]
  | cons b front ih =>
      cases front' with
      | nil => exact absurd heq (text_cons_ne h comment?')
      | cons b' front' =>
          obtain ⟨rfl, htail⟩ := List.cons.inj heq
          have hcut := ih (sound_cons.1 h).2.2 front' (sound_cons.1 h').2.2 htail
          obtain ⟨rfl, rfl⟩ := Cut.mk.inj hcut
          rfl

/-- What is left of a text goes by what is left of shorter ones. -/
theorem left_congr {f g : List UInt8 → List UInt8} {cut : Cut}
    (hshorter : ∀ s : List UInt8, s.length < cut.text.length → f s = g s) :
    cut.left f = cut.left g := by
  obtain ⟨front, _ | ⟨opening, body, behind?⟩⟩ := cut
  · rfl
  · cases behind? with
    | none => cases opening <;> rfl
    | some behind =>
        have hbehind : f behind = g behind := by
          apply hshorter
          cases opening <;>
            simp [text, Comment.text, Comment.rest, Opening.bytes, Opening.closing] <;> omega
        show front ++ f behind = front ++ g behind
        rw [hbehind]

end Cut

/-- **Taking out comments is taking out the first one, and going on behind it.**  A text without
a marker stays as it is.  Otherwise all that stands in front of the first marker stays; what
`#` or `//` opens is left out with the end of its line, and up to the end of the text if that
has none; what `/*` opens is left out with the first `*/`, and stays, with all that follows, if
that has none.  Every text is of just one of these forms, so nothing else removes comments as
these equations say. -/
theorem uncomment_by_cuts :
    (∀ cut : Cut, cut.Sound → uncomment cut.text = cut.left uncomment) ∧
    (∀ s : List UInt8, ∃! cut : Cut, cut.Sound ∧ cut.text = s) ∧
    ∀ strip : List UInt8 → List UInt8,
      (∀ cut : Cut, cut.Sound → strip cut.text = cut.left strip) → strip = uncomment := by
  refine ⟨fun cut => Cut.uncomment_text, ?_, ?_⟩
  · intro s
    obtain ⟨cut, hsound, htext⟩ := Cut.exists_cut s
    refine ⟨cut, ⟨hsound, htext⟩, ?_⟩
    rintro cut' ⟨hsound', htext'⟩
    exact Cut.eq_of_text_eq hsound' hsound (htext'.trans htext.symm)
  · intro strip hstrip
    funext s
    -- The text behind a comment is shorter than the whole.
    induction hlength : s.length using Nat.strongRecOn generalizing s with
    | ind n ih =>
        obtain ⟨cut, hsound, rfl⟩ := Cut.exists_cut s
        rw [hstrip cut hsound, Cut.uncomment_text hsound]
        apply Cut.left_congr
        intro t ht
        exact ih t.length (hlength ▸ ht) t rfl

/-- Markers that overlap: `/*/#*/` is one comment, and so is `///` with the end of its line. -/
example : uncomment [slash, star, slash, hash, star, slash, star, slash, slash, slash, newline, star]
    = [star, star] := by
  cbv

end RuleScript.Script
