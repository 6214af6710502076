/-
  RuleScript.Proofs.Host.Case
  ───────────────────────────
  **Paths in upper and lower case.**

  A path in other letters, equal up to the case of `A` to `Z`, goes the same way:
  names and keys are looked up by what does not hang on case, and the signs and
  digits of a position have none.

  Main results:
    • `position?_congr` — a position in another case counts the same element.
    • `Descends.respelled` — a path in another case takes the same step.
-/
import RuleScript.Proofs.Host.Descent

namespace RuleScript

/-- The text with its letters `A` to `Z` in lower case. -/
def Text.lowered (text : String) : String := String.ofList (foldCase text)

theorem Text.lowered_congr {text text' : String} (h : sameName text text' = true) :
    lowered text = lowered text' := by
  unfold lowered
  rw [sameName_iff.1 h]

/-! ## §1. Numerals have no case. -/

/-- A character in front of the letters has no other case. -/
theorem Text.eq_of_toLower_eq {c c' : Char} (h : c.toLower = c'.toLower) (hc : c < 'A') :
    c = c' := by
  have hplain : c.toLower = c := by
    unfold Char.toLower
    exact dif_neg fun hletter => absurd hc (Nat.not_lt.2 hletter.1)
  rw [hplain] at h
  unfold Char.toLower at h
  split at h
  · next hletter =>
    -- In lower case, a letter comes behind all of those characters.
    have hval : c.val = c'.val + 32 := congrArg Char.val h
    have hlt : c.val < 65 := hc
    have hge : 65 ≤ c'.val := hletter.1
    have hle : c'.val ≤ 90 := hletter.2
    grind
  · exact h

namespace Numeral

theorem digit?_congr {c c' : Char} (h : c.toLower = c'.toLower) : digit? c = digit? c' := by
  have hdigit {a b : Char} (hab : a.toLower = b.toLower) (ha : '0' ≤ a ∧ a ≤ '9') : a = b :=
    Text.eq_of_toLower_eq hab (UInt32.lt_of_le_of_lt ha.2 (by decide))
  by_cases hc : '0' ≤ c ∧ c ≤ '9'
  · rw [hdigit h hc]
  · by_cases hc' : '0' ≤ c' ∧ c' ≤ '9'
    · rw [hdigit h.symm hc']
    · unfold digit?
      rw [if_neg hc, if_neg hc']

theorem readDigits_congr {s s' : List Char} (h : s.map Char.toLower = s'.map Char.toLower)
    (limit : Nat) (past : Fault) (value : Nat) :
    readDigits limit past value s = readDigits limit past value s' := by
  induction s generalizing s' value with
  | nil =>
      rw [List.map_nil] at h
      rw [List.map_eq_nil_iff.1 h.symm]
  | cons c s ih =>
      obtain ⟨c', rest, rfl, hc, hrest⟩ := List.map_eq_cons_iff.1 h.symm
      rw [readDigits, readDigits, digit?_congr hc]
      simp only [ih hrest.symm]

theorem unsigned_plus {digits : List Char} (h : digits ≠ []) (limit : Nat) :
    unsigned limit ('+' :: digits) = readDigits limit .tooLarge 0 digits := by
  rw [unsigned]
  exact h

theorem unsigned_plain {c : Char} (hplus : c ≠ '+') (rest : List Char) (limit : Nat) :
    unsigned limit (c :: rest) = readDigits limit .tooLarge 0 (c :: rest) := by
  unfold unsigned
  split <;> simp_all

theorem unsigned_congr {s s' : List Char} (h : s.map Char.toLower = s'.map Char.toLower)
    (limit : Nat) : unsigned limit s = unsigned limit s' := by
  cases s with
  | nil =>
      rw [List.map_nil] at h
      rw [List.map_eq_nil_iff.1 h.symm]
  | cons c rest =>
      obtain ⟨c', rest', rfl, hc, hrest⟩ := List.map_eq_cons_iff.1 h.symm
      by_cases hplus : c = '+'
      · have hplus' : c' = '+' := by
          subst hplus
          exact (Text.eq_of_toLower_eq hc.symm (by decide)).symm
        subst hplus hplus'
        cases rest with
        | nil =>
            rw [List.map_nil] at hrest
            rw [List.map_eq_nil_iff.1 hrest]
        | cons d digits =>
            obtain ⟨d', digits', rfl, -, -⟩ := List.map_eq_cons_iff.1 hrest
            rw [unsigned_plus (List.cons_ne_nil _ _), unsigned_plus (List.cons_ne_nil _ _)]
            exact readDigits_congr hrest.symm _ _ _
      · have hplus' : c' ≠ '+' := by
          rintro rfl
          exact hplus (Text.eq_of_toLower_eq hc (by decide)).symm
        rw [unsigned_plain hplus, unsigned_plain hplus']
        exact readDigits_congr h _ _ _

end Numeral

namespace Host

/-! ## §2. Paths. -/

/-- A position in another case counts the same element. -/
theorem position?_congr {segment segment' : String} (h : Text.sameName segment segment' = true) :
    position? segment = position? segment' := by
  unfold position? Numeral.unsigned?
  rw [Numeral.unsigned_congr (Text.sameName_iff.1 h)]

/-- The two paths differ in the case of `A` to `Z` at most. -/
def SamePath (p p' : List String) : Prop := p.map Text.foldCase = p'.map Text.foldCase

instance (p p' : List String) : Decidable (SamePath p p') :=
  inferInstanceAs (Decidable (_ = _))

theorem SamePath.refl (p : List String) : SamePath p p := rfl

theorem samePath_nil {p : List String} (h : SamePath [] p) : p = [] :=
  List.map_eq_nil_iff.1 h.symm

theorem samePath_cons {segment : String} {rest p : List String} (h : SamePath (segment :: rest) p) :
    ∃ segment' rest', p = segment' :: rest' ∧ Text.sameName segment segment' = true ∧
      SamePath rest rest' := by
  obtain ⟨segment', rest', hp, hsegment, hrest⟩ := List.map_eq_cons_iff.1 h.symm
  exact ⟨segment', rest', hp, Text.sameName_iff.2 hsegment.symm, hrest.symm⟩

/-- **A path in another case takes the same step.** -/
theorem Descends.respelled {h : Host} {path path' : List String} {d : Descent}
    (hd : Descends h path d) (hsame : SamePath path path') :
    ∃ rest, SamePath d.rest rest ∧ Descends h path' { d with rest := rest } := by
  cases hd with
  | field hslot hcell =>
      obtain ⟨segment', rest', rfl, hsegment, hrest⟩ := samePath_cons hsame
      rw [Layout.slot?_congr hsegment] at hslot
      exact ⟨rest', hrest, .field hslot hcell⟩
  | fixedKey hslot hcell =>
      obtain ⟨segment', rest', rfl, hsegment, hrest⟩ := samePath_cons hsame
      rw [Layout.slot?_congr hsegment] at hslot
      exact ⟨rest', hrest, .fixedKey hslot hcell⟩
  | entry hentry =>
      obtain ⟨segment', rest', rfl, hsegment, hrest⟩ := samePath_cons hsame
      rw [entry?_congr hsegment] at hentry
      exact ⟨rest', hrest, .entry hentry⟩
  | first =>
      rw [samePath_nil hsame]
      exact ⟨[], .refl [], .first⟩
  | element hposition hitem =>
      obtain ⟨segment', rest', rfl, hsegment, hrest⟩ := samePath_cons hsame
      rw [position?_congr hsegment] at hposition
      exact ⟨rest', hrest, .element hposition hitem⟩
  | content => exact ⟨path', hsame, .content⟩

end Host

end RuleScript
