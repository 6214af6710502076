/-
  RuleScript.Proofs.Environment.References
  ────────────────────────────────────────
  **Words and the references in them.**

  A word is cut into references and single characters.  Where no reference stands in
  it, all its pieces are characters, whatever openings, dollar signs and parentheses
  it has, and expansion gives the word back.

  Main results:
    • `pieces_of_free` — the pieces of a word without references.
    • `mem_pieces_iff` — the references among the pieces are those that stand in it.
    • `expand?_of_free` — a word without references stands for itself.
    • `expand?_congr` — expansion reads nothing but the references of a word.
-/
import RuleScript.Reference

namespace RuleScript

namespace Reference

/-- No reference stands in the text. -/
def Free (s : List Char) : Prop :=
  ∀ path : List Char, path ≠ [] → path.all isPathChar = true →
    ¬(Piece.reference path).source <:+: s

/-- Without a dollar sign there is no reference. -/
theorem free_of_not_mem {s : List Char} (h : '$' ∉ s) : Free s := by
  intro path _ _ hstands
  exact h (hstands.subset List.mem_cons_self)

theorem Free.tail {c : Char} {s : List Char} (h : Free (c :: s)) : Free s := by
  intro path hne hall hstands
  exact h path hne hall (hstands.trans (List.suffix_cons c s).isInfix)

/-- The path of a reference that has been read is one. -/
theorem path_of_readPath? {s path rest : List Char} (h : readPath? s = some (path, rest)) :
    path ≠ [] ∧ path.all isPathChar = true := by
  unfold readPath? at h
  split at h
  · next c path' rest' htake hdrop =>
    cases h
    refine ⟨List.cons_ne_nil _ _, ?_⟩
    rw [← htake]
    exact List.all_takeWhile
  · cases h

/-- A path and the parenthesis that closes it are read as that path. -/
theorem readPath?_append {path : List Char} (hne : path ≠ []) (hall : path.all isPathChar = true)
    (rest : List Char) : readPath? (path ++ ')' :: rest) = some (path, rest) := by
  have hchars : ∀ c ∈ path, isPathChar c = true := List.all_eq_true.1 hall
  have hclose : isPathChar ')' = false := by decide
  unfold readPath?
  rw [List.takeWhile_append_of_pos hchars, List.dropWhile_append_of_pos hchars,
    List.takeWhile_cons, List.dropWhile_cons, hclose]
  cases path with
  | nil => exact absurd rfl hne
  | cons c path => simp

/-- What has been cut out of a text as a reference starts with an opening. -/
theorem eq_of_opening {c : Char} {rest path after : List Char}
    (h : (if c = '$' ∧ rest.head? = some '(' then readPath? (rest.drop 1) else none)
      = some (path, after)) :
    c = '$' ∧ rest = '(' :: (path ++ ')' :: after) ∧ path ≠ [] ∧
      path.all isPathChar = true := by
  split at h
  · next hopen =>
    obtain ⟨rfl, hhead⟩ := hopen
    cases rest with
    | nil => cases hhead
    | cons d tail =>
        cases hhead
        rw [List.drop_one, List.tail_cons] at h
        obtain ⟨hne, hall⟩ := path_of_readPath? h
        rw [← eq_of_readPath? h]
        exact ⟨rfl, rfl, hne, hall⟩
  · cases h

/-- **The pieces of a word without references** are its characters. -/
theorem pieces_of_free {s : List Char} (h : Free s) : pieces s = s.map .char := by
  fun_induction pieces s with
  | case1 => rfl
  | case2 c rest path after hread ih =>
      -- What has been cut out as a reference stands in the word.
      obtain ⟨rfl, rfl, hne, hall⟩ := eq_of_opening hread
      refine absurd ?_ (h path hne hall)
      exact ⟨[], after, by simp [Piece.source]⟩
  | case3 c rest _ ih => rw [ih h.tail, List.map_cons]

theorem source_reference (path : List Char) :
    (Piece.reference path).source = '$' :: '(' :: (path ++ [')']) := rfl

/-- A reference has a path, of characters that paths are made of. -/
theorem path_of_mem_pieces {s path : List Char} (hmem : Piece.reference path ∈ pieces s) :
    path ≠ [] ∧ path.all isPathChar = true := by
  fun_induction pieces s with
  | case1 => cases hmem
  | case2 c rest path' after hread ih =>
      rcases List.mem_cons.1 hmem with hhead | htail
      · cases hhead
        exact (eq_of_opening hread).2.2
      · exact ih htail
  | case3 c rest _ ih =>
      rcases List.mem_cons.1 hmem with hhead | htail
      · cases hhead
      · exact ih htail

/-- No dollar sign stands between an opening and the parenthesis that closes it, as there is
none in a path. -/
theorem split_at_dollar {path before behind after : List Char}
    (hall : path.all isPathChar = true)
    (h : before ++ '$' :: behind = '(' :: (path ++ [')']) ++ after) :
    ∃ between, before = '(' :: (path ++ [')']) ++ between ∧ after = between ++ '$' :: behind := by
  have hdollar : '$' ∉ '(' :: (path ++ [')']) := by
    simpa using fun hmem => absurd (List.all_eq_true.1 hall _ hmem) (by decide)
  rcases List.append_eq_append_iff.1 h with ⟨inside, hin, hout⟩ | ⟨between, hin, hout⟩
  · cases inside with
    | nil =>
        rw [List.append_nil] at hin
        exact ⟨[], by rw [hin, List.append_nil], hout.symm⟩
    | cons e inside =>
        obtain ⟨rfl, -⟩ := List.cons.inj hout
        rw [hin] at hdollar
        exact absurd (List.mem_append_right _ List.mem_cons_self) hdollar
  · exact ⟨between, hin, hout⟩

/-- No reference begins inside another one. -/
theorem infix_after_reference {path path' before behind after : List Char}
    (hall' : path'.all isPathChar = true)
    (h : before ++ ((Piece.reference path).source ++ behind)
      = '(' :: (path' ++ [')']) ++ after) :
    (Piece.reference path).source <:+: after := by
  rw [source_reference, List.cons_append] at h
  obtain ⟨between, -, hafter⟩ := split_at_dollar hall' h
  refine ⟨between, behind, ?_⟩
  rw [hafter, source_reference, List.append_assoc, List.cons_append]

/-- Where no reference has been cut out, none begins. -/
theorem not_prefix_of_opening {c : Char} {rest path : List Char}
    (h : (if c = '$' ∧ rest.head? = some '(' then readPath? (rest.drop 1) else none) = none)
    (hne : path ≠ []) (hall : path.all isPathChar = true) :
    ¬(Piece.reference path).source <+: c :: rest := by
  rintro ⟨behind, hs⟩
  obtain ⟨rfl, hrest⟩ := List.cons.inj hs
  have hrest' : rest = '(' :: (path ++ ')' :: behind) := by simpa using hrest.symm
  rw [hrest', if_pos ⟨rfl, rfl⟩, List.drop_one, List.tail_cons, readPath?_append hne hall] at h
  cases h

/-- A text is cut at every reference that stands in it. -/
theorem mem_pieces_of_infix {s path : List Char} (hne : path ≠ [])
    (hall : path.all isPathChar = true) (hstands : (Piece.reference path).source <:+: s) :
    Piece.reference path ∈ pieces s := by
  fun_induction pieces s with
  | case1 => cases List.eq_nil_of_infix_nil hstands
  | case2 c rest path' after hread ih =>
      obtain ⟨rfl, rfl, hne', hall'⟩ := eq_of_opening hread
      obtain ⟨before, behind, hs⟩ := hstands
      cases before with
      | nil =>
          have hrest : path ++ ')' :: behind = path' ++ ')' :: after := by
            simpa [source_reference] using hs
          have hsame := readPath?_append hne hall behind
          rw [hrest, readPath?_append hne' hall'] at hsame
          cases hsame
          exact List.mem_cons_self
      | cons d before =>
          have hrest : before ++ ((Piece.reference path).source ++ behind)
              = '(' :: (path' ++ [')']) ++ after := by
            simpa using (List.cons.inj hs).2
          exact List.mem_cons_of_mem _ (ih (infix_after_reference hall' hrest))
  | case3 c rest hread ih =>
      rcases List.infix_cons_iff.1 hstands with hfirst | hlater
      · exact absurd hfirst (not_prefix_of_opening hread hne hall)
      · exact List.mem_cons_of_mem _ (ih hlater)

/-- **A text is cut at every reference that stands in it**, and at no other. -/
theorem mem_pieces_iff {s path : List Char} :
    Piece.reference path ∈ pieces s ↔
      path ≠ [] ∧ path.all isPathChar = true ∧ (Piece.reference path).source <:+: s := by
  constructor
  · intro hmem
    obtain ⟨hne, hall⟩ := path_of_mem_pieces hmem
    obtain ⟨before, behind, hpieces⟩ := List.append_of_mem hmem
    refine ⟨hne, hall, before.flatMap Piece.source, behind.flatMap Piece.source, ?_⟩
    rw [← flatMap_source_pieces s, hpieces, List.flatMap_append, List.flatMap_cons,
      List.append_assoc]
  · rintro ⟨hne, hall, hstands⟩
    exact mem_pieces_of_infix hne hall hstands

/-- Characters stand for themselves. -/
theorem flatMap_text_char (env : Environment) (text : List Char) :
    (text.map Piece.char).flatMap (·.text env) = text := by
  rw [List.flatMap_map]
  exact List.flatMap_singleton' text

theorem findSome?_failure_char (env : Environment) (text : List Char) :
    (text.map Piece.char).findSome? (·.failure? env) = none := by
  rw [List.findSome?_eq_none_iff]
  intro piece hmem
  obtain ⟨c, -, rfl⟩ := List.mem_map.1 hmem
  rfl

end Reference

namespace Environment

/-- A word is expanded alike where all its references are read alike. -/
theorem expand?_congr {a b : Environment} {word : String}
    (h : ∀ path, .reference path ∈ Reference.pieces word.toList →
      a.read (String.ofList path) = b.read (String.ofList path)) :
    a.expand? word = b.expand? word := by
  have hvalue : ∀ piece ∈ Reference.pieces word.toList, piece.value? a = piece.value? b := by
    intro piece hmem
    cases piece with
    | char c => rfl
    | reference path => exact congrArg some (h path hmem)
  have htext : (Reference.pieces word.toList).map (·.text a)
      = (Reference.pieces word.toList).map (·.text b) := by
    refine List.map_congr_left fun piece hmem => ?_
    unfold Reference.Piece.text
    rw [hvalue piece hmem]
  have hfailure : (Reference.pieces word.toList).map (·.failure? a)
      = (Reference.pieces word.toList).map (·.failure? b) := by
    refine List.map_congr_left fun piece hmem => ?_
    unfold Reference.Piece.failure?
    rw [hvalue piece hmem]
  have hfirst (env : Environment) : (env.expand word).failure
      = ((Reference.pieces word.toList).map (·.failure? env)).findSome? id := by
    rw [List.findSome?_map]
    rfl
  have hwhole (env : Environment) : (env.expand word).text
      = String.ofList ((Reference.pieces word.toList).map (·.text env)).flatten :=
    congrArg String.ofList List.flatMap_def
  unfold expand?
  simp only [hfirst, hwhole, htext, hfailure]

/-- **A word without references stands for itself**, in every environment. -/
theorem expand?_of_free {word : String} (h : Reference.Free word.toList) (env : Environment) :
    env.expand? word = .ok word := by
  have hfailure : (env.expand word).failure = none := by
    show (Reference.pieces word.toList).findSome? (·.failure? env) = none
    rw [Reference.pieces_of_free h]
    exact Reference.findSome?_failure_char env word.toList
  have htext : (env.expand word).text = word := by
    show String.ofList ((Reference.pieces word.toList).flatMap (·.text env)) = word
    rw [Reference.pieces_of_free h, Reference.flatMap_text_char, String.ofList_toList]
  unfold expand?
  simp only [hfailure, htext]

end Environment

end RuleScript
