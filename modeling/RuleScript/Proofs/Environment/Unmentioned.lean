/-
  RuleScript.Proofs.Environment.Unmentioned
  ─────────────────────────────────────────
  **A root that is not mentioned.**

  A word mentions a root if it is its name, is a path that starts there, or has a
  reference in it whose path does.  Whatever is done with words that do not mention a
  root is done alike in two environments that differ in this root only: it gives the
  same results, makes the same changes elsewhere, and leaves the root as it is in each.

  Main results:
    • `mentions_iff` — a mention can be told from the pieces of a word.
    • `AgreeBut.expand?_eq` / `AgreeBut.read_eq` — what is read.
    • `AgreeBut.write` / `AgreeBut.clear` / `AgreeBut.own` — what is changed.
-/
import RuleScript.Proofs.Environment.References
import RuleScript.Proofs.Environment.Roots

namespace RuleScript

/-! ## §1. Mentions. -/

/-- The text is the name of the root, or a path that starts at it, or a reference stands in
it whose path does. -/
def Mentions (name text : String) : Prop :=
  text = name ∨ (RootPath.ofText text).root = name ∨
    ∃ path : List Char, path ≠ [] ∧ path.all Reference.isPathChar = true ∧
      (Reference.Piece.reference path).source <:+: text.toList ∧
      (RootPath.ofText (String.ofList path)).root = name

/-- The piece is a reference whose path starts at the root. -/
def Reference.Piece.startsAt (name : String) : Piece → Bool
  | .char _ => false
  | .reference path => (RootPath.ofText (String.ofList path)).root == name

/-- **Whether a root is mentioned can be told from the pieces of a text.** -/
theorem mentions_iff {name text : String} :
    Mentions name text ↔
      (text == name || (RootPath.ofText text).root == name ||
        (Reference.pieces text.toList).any (·.startsAt name)) = true := by
  rw [Bool.or_eq_true, Bool.or_eq_true, beq_iff_eq, beq_iff_eq, or_assoc, List.any_eq_true]
  refine or_congr_right (or_congr_right ⟨?_, ?_⟩)
  · rintro ⟨path, hne, hall, hstands, hroot⟩
    exact ⟨.reference path, Reference.mem_pieces_iff.2 ⟨hne, hall, hstands⟩, beq_iff_eq.2 hroot⟩
  · rintro ⟨piece, hmem, hroot⟩
    cases piece with
    | char c => cases hroot
    | reference path =>
        obtain ⟨hne, hall, hstands⟩ := Reference.mem_pieces_iff.1 hmem
        exact ⟨path, hne, hall, hstands, beq_iff_eq.1 hroot⟩

instance (name text : String) : Decidable (Mentions name text) :=
  decidable_of_iff _ mentions_iff.symm

namespace Environment

/-- The two environments differ in one root only, which is the first given one in the first
environment and the second in the second, if it is there at all. -/
structure AgreeBut (name : String) (left right : Option Root) (a b : Environment) : Prop where
  catalog : a.catalog = b.catalog
  others : ∀ other, other ≠ name → a.find? other = b.find? other
  left : a.find? name = left
  right : b.find? name = right

section
variable {name : String} {left right : Option Root} {a b : Environment}

/-! ## §2. Reading. -/

theorem AgreeBut.contains_eq (h : AgreeBut name left right a b) {other : String}
    (hne : other ≠ name) : a.contains other = b.contains other := by
  unfold contains
  rw [h.others other hne]

theorem AgreeBut.read_eq (h : AgreeBut name left right a b) {path : String}
    (hne : (RootPath.ofText path).root ≠ name) : a.read path = b.read path := by
  unfold read
  simp only [h.others _ hne]

/-- **A word that does not mention the root is expanded alike.** -/
theorem AgreeBut.expand?_eq (h : AgreeBut name left right a b) {word : String}
    (hword : ¬Mentions name word) : a.expand? word = b.expand? word := by
  refine expand?_congr fun path hmem => h.read_eq fun hroot => hword ?_
  obtain ⟨hne, hall, hstands⟩ := Reference.mem_pieces_iff.1 hmem
  exact .inr (.inr ⟨path, hne, hall, hstands, hroot⟩)

/-! ## §3. Changes. -/

theorem AgreeBut.setHost (h : AgreeBut name left right a b) {other : String} (hne : other ≠ name)
    {root : Root} (hroot : a.find? other = some root) (host : Host) :
    AgreeBut name left right (a.setHost other root host) (b.setHost other root host) := by
  refine ⟨h.catalog, ?_, ?_, ?_⟩
  · intro third hthird
    by_cases hother : third = other
    · subst hother
      rw [find?_setHost_self hroot, find?_setHost_self ((h.others third hne).symm.trans hroot)]
    · rw [find?_setHost_of_ne hother, find?_setHost_of_ne hother]
      exact h.others third hthird
  · exact (find?_setHost_of_ne hne.symm ..).trans h.left
  · exact (find?_setHost_of_ne hne.symm ..).trans h.right

/-- **A write elsewhere** ends alike, and leaves the root as it is. -/
theorem AgreeBut.write (h : AgreeBut name left right a b) {path : String}
    (hne : (RootPath.ofText path).root ≠ name) (text : String) :
    (a.write path text).2 = (b.write path text).2 ∧
      AgreeBut name left right (a.write path text).1 (b.write path text).1 := by
  have hsame := h.others _ hne
  cases hroot : a.find? (RootPath.ofText path).root with
  | none =>
      rw [hroot] at hsame
      rw [write_of_unknown hroot, write_of_unknown hsame.symm]
      exact ⟨rfl, h⟩
  | some root =>
      rw [hroot] at hsame
      rw [write_of_find? hroot, write_of_find? hsame.symm, h.catalog]
      exact ⟨rfl, h.setHost hne hroot _⟩

/-- **A clear elsewhere** ends alike, and leaves the root as it is. -/
theorem AgreeBut.clear (h : AgreeBut name left right a b) {path : String}
    (hne : (RootPath.ofText path).root ≠ name) :
    (a.clear path).2 = (b.clear path).2 ∧
      AgreeBut name left right (a.clear path).1 (b.clear path).1 := by
  have hsame := h.others _ hne
  cases hroot : a.find? (RootPath.ofText path).root with
  | none =>
      rw [hroot] at hsame
      rw [clear_of_unknown hroot, clear_of_unknown hsame.symm]
      exact ⟨rfl, h⟩
  | some root =>
      rw [hroot] at hsame
      rw [clear_of_find? hroot, clear_of_find? hsame.symm]
      exact ⟨rfl, h.setHost hne hroot _⟩

/-- **A variable of another name** leaves the root as it is. -/
theorem AgreeBut.own (h : AgreeBut name left right a b) {other : String} (hne : other ≠ name)
    (host : Host) : AgreeBut name left right (a.own other host) (b.own other host) := by
  refine ⟨?_, ?_, ?_, ?_⟩
  · rw [catalog_own, catalog_own]
    exact h.catalog
  · intro third hthird
    by_cases hother : third = other
    · subst hother
      rw [find?_own_self, find?_own_self]
    · rw [find?_own_of_ne hother, find?_own_of_ne hother]
      exact h.others third hthird
  · exact (find?_own_of_ne hne.symm ..).trans h.left
  · exact (find?_own_of_ne hne.symm ..).trans h.right

end

end Environment

end RuleScript
