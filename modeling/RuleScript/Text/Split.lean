/-
  RuleScript.Text.Split
  ─────────────────────
  **Cutting text at a separator.**

  `cutAt?` cuts at the first place where a separator stands; `fields` cuts at
  every place where a character stands.  Nothing but the separators is lost:
  the two parts of a cut, joined by the separator, give the text back.
-/

namespace RuleScript.Text

/-! ## §1. One cut. -/

/-- The text before and after the first `separator`. -/
def cutAt? (separator : List Char) : List Char → Option (List Char × List Char)
  | [] => if separator.isEmpty then some ([], []) else none
  | c :: rest =>
    if separator.isPrefixOf (c :: rest) then
      some ([], (c :: rest).drop separator.length)
    else (cutAt? separator rest).map fun parts => (c :: parts.1, parts.2)

theorem eq_append_of_cutAt? {separator s before after : List Char}
    (h : cutAt? separator s = some (before, after)) :
    s = before ++ separator ++ after := by
  induction s generalizing before with
  | nil =>
    rw [cutAt?] at h
    split at h
    · next he => cases h; simp [List.isEmpty_iff.1 he]
    · cases h
  | cons c rest ih =>
    rw [cutAt?] at h
    split at h
    · next hp =>
      cases h
      obtain ⟨t, ht⟩ := List.isPrefixOf_iff_prefix.1 hp
      rw [← ht]; simp
    · obtain ⟨parts, hparts, he⟩ := Option.map_eq_some_iff.1 h
      cases he
      simp [ih hparts]

/-! ## §2. All cuts. -/

/-- The parts of the text between the places where `separator` stands; there is
one more of them than there are such places. -/
def fields (separator : Char) : List Char → List (List Char)
  | [] => [[]]
  | c :: rest =>
    if c = separator then [] :: fields separator rest
    else
      match fields separator rest with
      | first :: others => (c :: first) :: others
      | [] => [[c]]

theorem fields_ne_nil (separator : Char) (s : List Char) : fields separator s ≠ [] := by
  cases s with
  | nil => simp [fields]
  | cons c rest =>
    rw [fields]
    split
    · simp
    · split <;> simp

theorem length_fields (separator : Char) (s : List Char) :
    (fields separator s).length = s.count separator + 1 := by
  induction s with
  | nil => rfl
  | cons c rest ih =>
    rw [fields]
    split
    · next he => rw [List.length_cons, ih, he, List.count_cons_self]
    · next hne =>
      rw [List.count_cons_of_ne hne, ← ih]
      split
      · next hf => rw [hf]; rfl
      · next hf => exact absurd hf (fields_ne_nil separator rest)

/-! ## §3. Lines. -/

/-- The line without the carriage return that belongs to its end. -/
def dropReturn (line : List Char) : List Char :=
  if line.getLast? = some '\r' then line.dropLast else line

/-- The lines of a text.  The last one counts only if it is not empty; as nothing
ends it, it keeps a carriage return. -/
def lines (s : List Char) : List (List Char) :=
  let parts := fields '\n' s
  let ended := parts.dropLast.map dropReturn
  match parts.getLast? with
  | some (c :: last) => ended ++ [c :: last]
  | _ => ended

end RuleScript.Text
