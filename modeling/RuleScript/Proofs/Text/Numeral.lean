/-
  RuleScript.Proofs.Text.Numeral
  ──────────────────────────────
  **What a numeral spells.**

  Reading digits from the left stops early at a number past the bound.  A number
  only grows as digits are read, so nothing is lost by that: a text is read as an
  integer just if it is a sign, or none, and digits that stand for that integer.

  Main results:
    • `integer_eq_ok_iff` — which texts are read as an integer.
    • `integer_write` — the shortest numeral of an integer is one of them.
    • `integer?_eq_none_iff` — which texts are not, among them digits past the bounds.
-/
import Mathlib
import RuleScript.Text.Numeral

namespace RuleScript.Numeral

/-! ## §1. Digits. -/

/-- The number that digits stand for after those that gave `value`. -/
def natural (value : Nat) (digits : List Char) : Nat :=
  digits.foldl (fun n c => n * 10 + (c.toNat - '0'.toNat)) value

/-- One digit or more, and nothing else. -/
def isDigits (s : List Char) : Bool := !s.isEmpty && s.all Char.isDigit

theorem le_natural (value : Nat) (digits : List Char) : value ≤ natural value digits := by
  induction digits generalizing value with
  | nil => exact Nat.le_refl _
  | cons c rest ih =>
      have hstep : value ≤ value * 10 + (c.toNat - '0'.toNat) := by omega
      exact Nat.le_trans hstep (ih _)

theorem digit?_of_isDigit {c : Char} (h : c.isDigit = true) :
    digit? c = some (c.toNat - '0'.toNat) := by
  unfold digit?
  rw [if_pos]
  simpa [Char.isDigit, Char.le_def] using h

theorem digit?_eq_none {c : Char} (h : c.isDigit = false) : digit? c = none := by
  unfold digit?
  rw [if_neg]
  simpa [Char.isDigit, Char.le_def] using h

/-- Digits are read up to the end just if what they stand for is within bounds. -/
theorem readDigits_eq_ok_iff {limit value m : Nat} {past : Fault} {digits : List Char}
    (hv : value ≤ limit) :
    readDigits limit past value digits = .ok m ↔
      digits.all Char.isDigit = true ∧ natural value digits = m ∧ m ≤ limit := by
  induction digits generalizing value with
  | nil =>
      constructor
      · intro h
        cases h
        exact ⟨rfl, rfl, hv⟩
      · intro h
        rw [← h.2.1]
        rfl
  | cons c rest ih =>
      rw [readDigits]
      cases hc : c.isDigit with
      | false =>
          rw [digit?_eq_none hc, List.all_cons, hc]
          constructor
          · intro h
            cases h
          · intro h
            cases h.1
      | true =>
          rw [digit?_of_isDigit hc, List.all_cons, hc, Bool.true_and]
          by_cases hle : value * 10 + (c.toNat - '0'.toNat) ≤ limit
          · simp only [if_pos hle]
            exact ih hle
          -- Past the bound there is no way back, as digits to come only add to it.
          · simp only [if_neg hle]
            have hgrow := le_natural (value * 10 + (c.toNat - '0'.toNat)) rest
            constructor
            · intro h
              cases h
            · intro h
              have hm : natural (value * 10 + (c.toNat - '0'.toNat)) rest = m := h.2.1
              omega

/-! ## §2. Signs. -/

/-- The text is a sign, or none, and digits, and they stand for `n`. -/
inductive Spells : List Char → Int64 → Prop
  | plain {digits : List Char} {n : Int64} (digital : isDigits digits = true)
      (value : n.toInt = natural 0 digits) : Spells digits n
  | plus {digits : List Char} {n : Int64} (digital : isDigits digits = true)
      (value : n.toInt = natural 0 digits) : Spells ('+' :: digits) n
  | minus {digits : List Char} {n : Int64} (digital : isDigits digits = true)
      (value : n.toInt = -natural 0 digits) : Spells ('-' :: digits) n

theorem map_readDigits_eq_ok_iff {past : Fault} {digits : List Char} {n : Int64} :
    (readDigits maxSigned64 past 0 digits).map (fun m : Nat => Int64.ofInt m) = .ok n ↔
      digits.all Char.isDigit = true ∧ n.toInt = natural 0 digits := by
  unfold maxSigned64
  constructor
  · intro h
    cases hr : readDigits 9223372036854775807 past 0 digits with
    | error fault =>
        rw [hr] at h
        cases h
    | ok m =>
        rw [hr] at h
        cases h
        obtain ⟨hall, hvalue, hle⟩ := (readDigits_eq_ok_iff (Nat.zero_le _)).1 hr
        refine ⟨hall, ?_⟩
        -- Within the bound nothing is cut off.
        rw [hvalue, Int64.toInt_ofInt_of_le (by omega) (by omega)]
  · intro ⟨hall, hvalue⟩
    have hlt := n.toInt_lt
    rw [(readDigits_eq_ok_iff (Nat.zero_le _)).2 ⟨hall, rfl, by omega⟩]
    show Except.ok (Int64.ofInt (natural 0 digits)) = _
    rw [← hvalue, Int64.ofInt_toInt]

theorem map_readDigits_neg_eq_ok_iff {past : Fault} {digits : List Char} {n : Int64} :
    (readDigits (maxSigned64 + 1) past 0 digits).map (fun m : Nat => Int64.ofInt (-m))
        = .ok n ↔
      digits.all Char.isDigit = true ∧ n.toInt = -natural 0 digits := by
  unfold maxSigned64
  constructor
  · intro h
    cases hr : readDigits (9223372036854775807 + 1) past 0 digits with
    | error fault =>
        rw [hr] at h
        cases h
    | ok m =>
        rw [hr] at h
        cases h
        obtain ⟨hall, hvalue, hle⟩ := (readDigits_eq_ok_iff (Nat.zero_le _)).1 hr
        refine ⟨hall, ?_⟩
        -- The bound is one more than above, as the least integer has no positive twin.
        rw [hvalue, Int64.toInt_ofInt_of_le (by omega) (by omega)]
  · intro ⟨hall, hvalue⟩
    have hge := n.le_toInt
    rw [(readDigits_eq_ok_iff (Nat.zero_le _)).2 ⟨hall, rfl, by omega⟩]
    show Except.ok (Int64.ofInt (-(natural 0 digits : Int))) = _
    rw [← hvalue, Int64.ofInt_toInt]

theorem signed_minus {digits : List Char} (h : digits ≠ []) :
    signed ('-' :: digits)
      = (readDigits (maxSigned64 + 1) .tooSmall 0 digits).map
          fun m : Nat => Int64.ofInt (-m) := by
  rw [signed]
  · cases readDigits (maxSigned64 + 1) .tooSmall 0 digits <;> rfl
  · exact h

theorem signed_plus {digits : List Char} (h : digits ≠ []) :
    signed ('+' :: digits)
      = (readDigits maxSigned64 .tooLarge 0 digits).map fun m : Nat => Int64.ofInt m := by
  rw [signed]
  · cases readDigits maxSigned64 .tooLarge 0 digits <;> rfl
  · exact h

theorem signed_plain {c : Char} (hminus : c ≠ '-') (hplus : c ≠ '+') (rest : List Char) :
    signed (c :: rest)
      = (readDigits maxSigned64 .tooLarge 0 (c :: rest)).map
          fun m : Nat => Int64.ofInt m := by
  unfold signed
  split <;> simp_all
  cases readDigits maxSigned64 .tooLarge 0 (c :: rest) <;> rfl

theorem isDigits_iff {s : List Char} :
    isDigits s = true ↔ s ≠ [] ∧ s.all Char.isDigit = true := by
  cases s <;> simp [isDigits]

/-- **A list of characters is read as the integer that it spells.** -/
theorem signed_eq_ok_iff {s : List Char} {n : Int64} : signed s = .ok n ↔ Spells s n := by
  constructor
  -- The first character decides: a sign that stands alone is refused.
  · intro h
    cases s with
    | nil => cases h
    | cons c rest =>
        by_cases hminus : c = '-'
        · subst hminus
          cases rest with
          | nil => cases h
          | cons d rest =>
              rw [signed_minus (List.cons_ne_nil _ _), map_readDigits_neg_eq_ok_iff] at h
              exact .minus (isDigits_iff.2 ⟨List.cons_ne_nil _ _, h.1⟩) h.2
        by_cases hplus : c = '+'
        · subst hplus
          cases rest with
          | nil => cases h
          | cons d rest =>
              rw [signed_plus (List.cons_ne_nil _ _), map_readDigits_eq_ok_iff] at h
              exact .plus (isDigits_iff.2 ⟨List.cons_ne_nil _ _, h.1⟩) h.2
        · rw [signed_plain hminus hplus, map_readDigits_eq_ok_iff] at h
          exact .plain (isDigits_iff.2 ⟨List.cons_ne_nil _ _, h.1⟩) h.2
  · intro h
    cases h with
    | minus digital value =>
        obtain ⟨hne, hall⟩ := isDigits_iff.1 digital
        rw [signed_minus hne, map_readDigits_neg_eq_ok_iff]
        exact ⟨hall, value⟩
    | plus digital value =>
        obtain ⟨hne, hall⟩ := isDigits_iff.1 digital
        rw [signed_plus hne, map_readDigits_eq_ok_iff]
        exact ⟨hall, value⟩
    | plain digital value =>
        obtain ⟨hne, hall⟩ := isDigits_iff.1 digital
        cases s with
        | nil => exact absurd rfl hne
        | cons c rest =>
            -- A digit is no sign.
            have hc : c.isDigit = true := by
              rw [List.all_cons, Bool.and_eq_true] at hall
              exact hall.1
            have hminus : c ≠ '-' := by
              rintro rfl
              cases hc
            have hplus : c ≠ '+' := by
              rintro rfl
              cases hc
            rw [signed_plain hminus hplus, map_readDigits_eq_ok_iff]
            exact ⟨hall, value⟩

/-- **A text is read as the integer that it spells.** -/
theorem integer_eq_ok_iff {s : String} {n : Int64} : integer s = .ok n ↔ Spells s.toList n :=
  signed_eq_ok_iff

/-! ## §3. Written numerals. -/

theorem natural_eq_ofDigitChars (value : Nat) (digits : List Char) :
    natural value digits = Nat.ofDigitChars 10 digits value := by
  induction digits generalizing value with
  | nil => rfl
  | cons c rest ih =>
      show natural (value * 10 + (c.toNat - '0'.toNat)) rest
        = Nat.ofDigitChars 10 rest (10 * value + (c.toNat - '0'.toNat))
      rw [ih, Nat.mul_comm value 10]

theorem natural_toDigits (n : Nat) : natural 0 (Nat.toDigits 10 n) = n := by
  rw [natural_eq_ofDigitChars]
  exact Nat.ofDigitChars_ten_toDigits

theorem isDigits_toDigits (n : Nat) : isDigits (Nat.toDigits 10 n) = true := by
  refine isDigits_iff.2 ⟨Nat.toDigits_ne_nil, List.all_eq_true.2 ?_⟩
  intro c hc
  exact Nat.isDigit_of_mem_toDigits (by decide) (by decide) hc

/-- The shortest numeral of an integer spells it; the least integer is the one whose
digits stand for more than the bound of the positive ones. -/
theorem spells_write (n : Int64) : Spells (write n).toList n := by
  unfold write
  cases hn : n.toInt with
  | ofNat m =>
      have htext : (toString (Int.ofNat m)).toList = Nat.toDigits 10 m := by
        show (toString m).toList = _
        rw [Nat.toString_eq_ofList_toDigits, String.toList_ofList]
      rw [htext]
      refine .plain (isDigits_toDigits m) ?_
      rw [hn, natural_toDigits]
      rfl
  | negSucc m =>
      have htext : (toString (Int.negSucc m)).toList = '-' :: Nat.toDigits 10 (m + 1) := by
        show ("-" ++ toString (m + 1)).toList = _
        rw [Nat.toString_eq_ofList_toDigits, String.toList_append]
        show '-' :: (String.ofList (Nat.toDigits 10 (m + 1))).toList = _
        rw [String.toList_ofList]
      rw [htext]
      refine .minus (isDigits_toDigits (m + 1)) ?_
      rw [hn, natural_toDigits]
      rfl

/-- **The numeral of an integer is read as that integer.** -/
theorem integer_write (n : Int64) : integer (write n) = .ok n :=
  integer_eq_ok_iff.2 (spells_write n)

/-! ## §4. Numerals of any size. -/

/-- The text is a sign, or none, and digits, and they stand for the integer `z`, however large
it is. -/
inductive Denotes : List Char → Int → Prop
  | plain {digits : List Char} (digital : isDigits digits = true) :
      Denotes digits (natural 0 digits)
  | plus {digits : List Char} (digital : isDigits digits = true) :
      Denotes ('+' :: digits) (natural 0 digits)
  | minus {digits : List Char} (digital : isDigits digits = true) :
      Denotes ('-' :: digits) (-natural 0 digits)

/-- The integers of 64 bits. -/
def InRange (z : Int) : Prop := -2 ^ 63 ≤ z ∧ z ≤ 2 ^ 63 - 1

instance (z : Int) : Decidable (InRange z) :=
  inferInstanceAs (Decidable (-2 ^ 63 ≤ z ∧ z ≤ 2 ^ 63 - 1))

/-- The text is a numeral for `z`, and `z` has 64 bits. -/
def Means (s : String) (z : Int) : Prop := Denotes s.toList z ∧ InRange z

/-- The text is a numeral for an integer of 64 bits. -/
def IsNumeric (s : String) : Prop := ∃ z, Means s z

theorem inRange_toInt (n : Int64) : InRange n.toInt :=
  ⟨n.le_toInt, Int.le_sub_one_of_lt n.toInt_lt⟩

/-- What has a sign in front is no digits. -/
theorem not_isDigits_cons {c : Char} (h : c.isDigit = false) (rest : List Char) :
    ¬isDigits (c :: rest) = true := by
  unfold isDigits
  rw [List.all_cons, h, Bool.false_and, Bool.and_false]
  exact Bool.false_ne_true

/-- A text is a numeral for one integer at most. -/
theorem Denotes.unique {s : List Char} {x y : Int} (hx : Denotes s x) (hy : Denotes s y) :
    x = y := by
  -- The first character tells the form, as no sign is a digit.
  have hplus (rest : List Char) : ¬isDigits ('+' :: rest) = true := not_isDigits_cons rfl rest
  have hminus (rest : List Char) : ¬isDigits ('-' :: rest) = true := not_isDigits_cons rfl rest
  cases hx with
  | plain digital =>
      cases hy with
      | plain => rfl
      | plus => exact absurd digital (hplus _)
      | minus => exact absurd digital (hminus _)
  | plus digital =>
      cases hy with
      | plain digital' => exact absurd digital' (hplus _)
      | plus => rfl
  | minus digital =>
      cases hy with
      | plain digital' => exact absurd digital' (hminus _)
      | minus => rfl

theorem spells_iff {s : List Char} {n : Int64} : Spells s n ↔ Denotes s n.toInt := by
  constructor
  · intro h
    cases h with
    | plain digital value => exact value ▸ .plain digital
    | plus digital value => exact value ▸ .plus digital
    | minus digital value => exact value ▸ .minus digital
  · intro h
    generalize hz : n.toInt = z at h
    cases h with
    | plain digital => exact .plain digital hz
    | plus digital => exact .plus digital hz
    | minus digital => exact .minus digital hz

theorem integer?_eq_some_iff {s : String} {n : Int64} :
    integer? s = some n ↔ Denotes s.toList n.toInt := by
  rw [← spells_iff, ← integer_eq_ok_iff]
  unfold integer?
  cases integer s with
  | ok m =>
      exact ⟨fun h => congrArg Except.ok (Option.some.inj h), fun h => congrArg Except.toOption h⟩
  | error fault => exact ⟨nofun, nofun⟩

/-- **A text that means an integer of 64 bits is read as that integer.** -/
theorem Means.integer? {s : String} {z : Int} (h : Means s z) :
    ∃ n : Int64, Numeral.integer? s = some n ∧ n.toInt = z := by
  obtain ⟨hdenotes, hlow, hhigh⟩ := h
  have hz : (Int64.ofInt z).toInt = z := Int64.toInt_ofInt_of_le hlow (by omega)
  exact ⟨.ofInt z, integer?_eq_some_iff.2 (hz.symm ▸ hdenotes), hz⟩

theorem means_of_integer? {s : String} {n : Int64} (h : integer? s = some n) :
    Means s n.toInt :=
  ⟨integer?_eq_some_iff.1 h, inRange_toInt n⟩

/-- **What is not numeric is not read as an integer.** -/
theorem integer?_eq_none_iff {s : String} : integer? s = none ↔ ¬IsNumeric s := by
  constructor
  · rintro h ⟨z, hz⟩
    obtain ⟨n, hn, -⟩ := hz.integer?
    rw [h] at hn
    cases hn
  · intro h
    cases hn : integer? s with
    | none => rfl
    | some n => exact absurd ⟨_, means_of_integer? hn⟩ h

/-- **A numeral past the bounds is not numeric.** -/
theorem not_isNumeric_of_denotes {s : String} {z : Int} (h : Denotes s.toList z)
    (hz : ¬InRange z) : ¬IsNumeric s := by
  rintro ⟨y, hy, hrange⟩
  exact hz (h.unique hy ▸ hrange)

end RuleScript.Numeral
