/-
  RuleScript.Proofs.Text.Cut
  ──────────────────────────
  **Where a text is cut.**

  A text is cut at the first separator: a text has no cut just if the separator is not in it,
  and what is in front of the cut has no place where the separator stands.

  Main results:
    • `cutAt?_eq_none_iff` — which texts are not cut.
    • `cutAt?_char_iff` — the cut at a character.
    • `cutAt?_scheme` — the cut at `://`.
-/
import Mathlib
import RuleScript.Text.Split

namespace RuleScript.Text

theorem cutAt?_at_start {separator s : List Char} (h : separator <+: s) :
    cutAt? separator s = some ([], s.drop separator.length) := by
  cases s with
  | nil =>
      cases List.prefix_nil.1 h
      rfl
  | cons c rest =>
      rw [cutAt?, if_pos (List.isPrefixOf_iff_prefix.2 h)]

theorem cutAt?_cons {separator : List Char} {c : Char} {rest : List Char}
    (h : ¬separator <+: c :: rest) :
    cutAt? separator (c :: rest)
      = (cutAt? separator rest).map fun parts => (c :: parts.1, parts.2) := by
  rw [cutAt?, if_neg (mt List.isPrefixOf_iff_prefix.1 h)]

/-- **A text is cut just if the separator stands in it.** -/
theorem cutAt?_eq_none_iff {separator s : List Char} :
    cutAt? separator s = none ↔ ¬separator <:+: s := by
  induction s with
  | nil =>
      rw [List.infix_nil]
      cases separator <;> simp [cutAt?]
  | cons c rest ih =>
      rw [List.infix_cons_iff, not_or, ← ih]
      by_cases h : separator <+: c :: rest
      · rw [cutAt?_at_start h]
        exact ⟨fun hnone => absurd hnone (Option.some_ne_none _), fun hnot => absurd h hnot.1⟩
      · rw [cutAt?_cons h, Option.map_eq_none_iff]
        exact ⟨fun hnone => ⟨h, hnone⟩, fun hnot => hnot.2⟩

theorem char_starts_iff {c d : Char} {rest : List Char} : [c] <+: d :: rest ↔ c = d := by
  rw [List.cons_prefix_cons]
  exact ⟨fun h => h.1, fun h => ⟨h, List.nil_prefix⟩⟩

/-- **The cut at a character** is where it stands first. -/
theorem cutAt?_char_iff {c : Char} {s before after : List Char} :
    cutAt? [c] s = some (before, after) ↔ s = before ++ c :: after ∧ c ∉ before := by
  constructor
  · intro h
    refine ⟨by simpa using eq_append_of_cutAt? h, ?_⟩
    induction s generalizing before with
    | nil => cases h
    | cons d rest ih =>
        by_cases hd : c = d
        · rw [cutAt?_at_start (char_starts_iff.2 hd)] at h
          cases h
          exact List.not_mem_nil
        · rw [cutAt?_cons (mt char_starts_iff.1 hd)] at h
          obtain ⟨⟨front, back⟩, hparts, heq⟩ := Option.map_eq_some_iff.1 h
          cases heq
          rw [List.mem_cons, not_or]
          exact ⟨hd, ih hparts⟩
  · rintro ⟨rfl, hc⟩
    induction before with
    | nil => exact cutAt?_at_start (char_starts_iff.2 rfl)
    | cons d front ih =>
        rw [List.mem_cons, not_or] at hc
        rw [List.cons_append, cutAt?_cons (mt char_starts_iff.1 hc.1), ih hc.2]
        rfl

theorem cutAt?_char_eq_none_iff {c : Char} {s : List Char} : cutAt? [c] s = none ↔ c ∉ s := by
  rw [cutAt?_eq_none_iff, List.singleton_infix_iff]

/-- **The cut at `://`.**  No place where these characters stand begins in front of another one
and ends in it, so what is in front of the first one may be anything without them. -/
theorem cutAt?_scheme {scheme : List Char} (h : ¬"://".toList <:+: scheme) (after : List Char) :
    cutAt? "://".toList (scheme ++ "://".toList ++ after) = some (scheme, after) := by
  induction scheme with
  | nil => exact cutAt?_at_start (List.prefix_append _ _)
  | cons c rest ih =>
      rw [List.infix_cons_iff, not_or] at h
      have hfirst : ¬"://".toList <+: c :: (rest ++ "://".toList ++ after) := by
        show ¬[':', '/', '/'] <+: c :: (rest ++ [':', '/', '/'] ++ after)
        -- The separator would have to reach into the one that is there, or not to reach it.
        match rest with
        | [] => simp
        | [d] => simp
        | d :: e :: others =>
            intro hstart
            refine h.1 ?_
            simpa [List.cons_prefix_cons] using hstart
      rw [List.cons_append, List.cons_append, cutAt?_cons hfirst, ih h.2]
      rfl

end RuleScript.Text
