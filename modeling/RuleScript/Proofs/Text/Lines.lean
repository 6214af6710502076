/-
  RuleScript.Proofs.Text.Lines
  ────────────────────────────
  **The fields and the lines of a text.**

  A separator ends one field and starts the next, so a text that has one is cut there, and
  the fields on either side are those of the two parts.  The same goes for lines, only that
  the last one is none if nothing stands on it.

  Main results:
    • `fields_append` — the fields of a text with a separator in it.
    • `lines_append` — the lines of a text with an end of a line in it.
    • `lines_getElem?_append` — the line behind so many ends of lines.
-/
import RuleScript.Text.Split

namespace RuleScript.Text

/-! ## §1. Fields. -/

/-- A text is one field where the separator does not stand in it. -/
theorem fields_of_not_mem {separator : Char} {s : List Char} (h : separator ∉ s) :
    fields separator s = [s] := by
  induction s with
  | nil => rfl
  | cons c rest ih =>
      rw [List.mem_cons, not_or] at h
      obtain ⟨hc, hrest⟩ := h
      rw [fields, if_neg (Ne.symm hc), ih hrest]

/-- No field has the separator in it. -/
theorem not_mem_of_mem_fields {separator : Char} {s field : List Char}
    (h : field ∈ fields separator s) : separator ∉ field := by
  induction s generalizing field with
  | nil =>
      rw [List.mem_singleton.1 h]
      exact List.not_mem_nil
  | cons c rest ih =>
      rw [fields] at h
      split at h
      · rcases List.mem_cons.1 h with rfl | h
        · exact List.not_mem_nil
        · exact ih h
      · next hc =>
        split at h
        · next first others hfields =>
          rcases List.mem_cons.1 h with rfl | h
          · have hfirst : separator ∉ first := by
              refine ih ?_
              rw [hfields]
              exact List.mem_cons_self
            rw [List.mem_cons, not_or]
            exact ⟨Ne.symm hc, hfirst⟩
          · refine ih ?_
            rw [hfields]
            exact List.mem_cons_of_mem _ h
        · next hfields => exact absurd hfields (fields_ne_nil _ _)

/-- **A separator cuts a text in two.** -/
theorem fields_append (separator : Char) (a b : List Char) :
    fields separator (a ++ separator :: b) = fields separator a ++ fields separator b := by
  induction a with
  | nil => exact if_pos rfl
  | cons c a ih =>
      rw [List.cons_append, fields, fields, ih]
      by_cases hc : c = separator
      · rw [if_pos hc, if_pos hc, List.cons_append]
      · rw [if_neg hc, if_neg hc]
        cases hfields : fields separator a with
        | nil => exact absurd hfields (fields_ne_nil separator a)
        | cons first others => rfl

/-! ## §2. Lines. -/

/-- **An end of a line cuts a text in two**, and the lines in front of it are all ended. -/
theorem lines_append (a b : List Char) :
    lines (a ++ '\n' :: b) = (fields '\n' a).map dropReturn ++ lines b := by
  have hne := fields_ne_nil '\n' b
  have hlast : (fields '\n' a ++ fields '\n' b).getLast? = (fields '\n' b).getLast? := by
    rw [List.getLast?_append, List.getLast?_eq_some_getLast hne, Option.some_or]
  unfold lines
  simp only [fields_append, hlast, List.dropLast_append_of_ne_nil hne, List.map_append]
  -- What nothing ends is the last line of both, or of neither.
  split
  · rw [List.append_assoc]
  · rfl

/-- A line that nothing ends is one if there is something on it. -/
theorem lines_of_not_mem {line : List Char} (h : '\n' ∉ line) (hne : line ≠ []) :
    lines line = [line] := by
  obtain ⟨c, rest, rfl⟩ := List.exists_cons_of_ne_nil hne
  unfold lines
  rw [fields_of_not_mem h]
  rfl

/-- The first line of a text. -/
theorem lines_cons {line : List Char} (h : '\n' ∉ line) (rest : List Char) :
    lines (line ++ '\n' :: rest) = dropReturn line :: lines rest := by
  rw [lines_append, fields_of_not_mem h]
  rfl

/-- **The lines behind so many ends of lines** are those of what stands there. -/
theorem lines_getElem?_append (a b : List Char) :
    (lines (a ++ '\n' :: b))[(a ++ ['\n']).count '\n']? = (lines b)[0]? := by
  have hlength : ((fields '\n' a).map dropReturn).length = (a ++ ['\n']).count '\n' := by
    rw [List.length_map, length_fields, List.count_append, List.count_singleton_self]
  rw [lines_append, ← hlength, List.getElem?_append_right (Nat.le_refl _), Nat.sub_self]

end RuleScript.Text
