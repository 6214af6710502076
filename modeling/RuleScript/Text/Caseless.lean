/-
  RuleScript.Text.Caseless
  ────────────────────────
  **Equality up to the case of the letters A to Z.**

  Two texts are the same when they are equal once `A` to `Z` are read as `a` to
  `z`.  Letters outside ASCII have to agree exactly.  The relation is equality
  of an image (`foldCase`), hence an equivalence.
-/

namespace RuleScript.Text

/-- The text with `A` to `Z` in lower case. -/
def foldCase (s : String) : List Char := s.toList.map Char.toLower

/-- The two texts differ in the case of `A` to `Z` at most. -/
def sameName (a b : String) : Bool := foldCase a == foldCase b

theorem sameName_iff {a b : String} : sameName a b = true ↔ foldCase a = foldCase b := by
  simp [sameName]

theorem sameName_refl (a : String) : sameName a a = true := by simp [sameName]

theorem sameName_comm (a b : String) : sameName a b = sameName b a := by
  simp only [sameName]
  exact BEq.comm

theorem sameName_trans {a b c : String} (hab : sameName a b = true)
    (hbc : sameName b c = true) : sameName a c = true :=
  sameName_iff.2 ((sameName_iff.1 hab).trans (sameName_iff.1 hbc))

/-- A text is the same as one name just if it is the same as the other. -/
theorem sameName_congr {a b : String} (h : sameName a b = true) (name : String) :
    sameName name a = sameName name b := by
  unfold sameName
  rw [sameName_iff.1 h]

end RuleScript.Text
