/-
  RuleScript.Proofs.Comparison.Laws
  ─────────────────────────────────
  **The laws of comparisons.**

  An operand is numeric if it is a numeral for an integer of 64 bits, whatever its sign and
  its leading zeros; digits past the bounds are text.  Two numeric operands are compared as
  integers and two others as texts, so which of the two tables applies hangs on both
  operands.  What the tables decide is enough for the laws: no operand is alike to a numeric
  one by the one table and to a text by the other.

  Main results:
    • `decides_holds` — what comparisons decide.
    • `Decides.lawful` — the laws that follow from it.
    • `comparison_laws` — both, for the comparisons of conditions.
-/
import Mathlib
import RuleScript.Proofs.Text.Numeral
import RuleScript.Regex.Replace
import RuleScript.Run.Fault

namespace RuleScript.Comparison

open Numeral (Denotes InRange IsNumeric Means)

/-! ## §1. What is decided. -/

/-- How operands are compared.  A numeric one never meets another, whatever the operator;
numeric ones are compared as the integers that they mean, and others as they are. -/
structure Decides (holds : String → String → String → Except ComparisonError Bool) : Prop where
  mixed {p q : String} (hp : IsNumeric p) (hq : ¬IsNumeric q) (operator : String) :
    holds p operator q = .error .integerWithText ∧ holds q operator p = .error .integerWithText
  integers {p q : String} {x y : Int} (hp : Means p x) (hq : Means q y) :
    holds p "==" q = .ok (decide (x = y)) ∧ holds p "!=" q = .ok (decide (x ≠ y)) ∧
      holds p "<=" q = .ok (decide (x ≤ y)) ∧ holds p ">=" q = .ok (decide (x ≥ y))
  texts {p q : String} (hp : ¬IsNumeric p) (hq : ¬IsNumeric q) :
    holds p "==" q = .ok (decide (p = q)) ∧ holds p "!=" q = .ok (decide (p ≠ q))

theorem holds_integers {p q : String} {x y : Int64} (hp : Numeral.integer? p = some x)
    (hq : Numeral.integer? q = some y) (engine : Engine) (operator : String) :
    holds engine p operator q = integers x operator y := by
  unfold holds
  rw [hp, hq]

theorem holds_texts {p q : String} (hp : ¬IsNumeric p) (hq : ¬IsNumeric q) (engine : Engine)
    (operator : String) : holds engine p operator q = texts engine p operator q := by
  unfold holds
  rw [Numeral.integer?_eq_none_iff.2 hp, Numeral.integer?_eq_none_iff.2 hq]

/-- **What the comparisons of conditions decide**, whatever the engine of their patterns. -/
theorem decides_holds (engine : Engine) : Decides (holds engine) where
  mixed := by
    rintro p q ⟨z, hp⟩ hq operator
    obtain ⟨n, hn, -⟩ := hp.integer?
    unfold holds
    rw [hn, Numeral.integer?_eq_none_iff.2 hq]
    exact ⟨rfl, rfl⟩
  integers := by
    intro p q x y hp hq
    obtain ⟨m, hm, rfl⟩ := hp.integer?
    obtain ⟨n, hn, rfl⟩ := hq.integer?
    simp only [holds_integers hm hn]
    -- Machine integers are equal, or in order, just if the integers are that they stand for.
    refine ⟨congrArg Except.ok ?_, congrArg Except.ok ?_, congrArg Except.ok ?_,
      congrArg Except.ok ?_⟩
    · show (m == n) = _
      simp only [Bool.beq_eq_decide_eq, Int64.toInt_inj]
    · show (m != n) = _
      simp only [bne, Bool.beq_eq_decide_eq, Int64.toInt_inj, ne_eq, decide_not]
    · show decide (m ≤ n) = _
      simp only [Int64.le_iff_toInt_le]
    · show decide (n ≤ m) = _
      simp only [Int64.le_iff_toInt_le, ge_iff_le]
  texts := by
    intro p q hp hq
    simp only [holds_texts hp hq]
    refine ⟨congrArg Except.ok ?_, congrArg Except.ok ?_⟩
    · show (p == q) = _
      exact Bool.beq_eq_decide_eq p q
    · show (p != q) = _
      simp only [bne, Bool.beq_eq_decide_eq, ne_eq, decide_not]

/-! ## §2. Laws. -/

/-- The laws of comparisons: `!=` is the negation of `==` wherever this is defined; `==` is an
equivalence; and on numeric operands `<=` and `>=` are defined, are converses of each other
and total preorders, and both hold just where `==` does. -/
structure Lawful (holds : String → String → String → Except ComparisonError Bool) : Prop where
  ne_eq_not (p q : String) : holds p "!=" q = (holds p "==" q).map not
  eq_refl (p : String) : holds p "==" p = .ok true
  eq_comm (p q : String) : holds p "==" q = holds q "==" p
  eq_trans {p q r : String} (hpq : holds p "==" q = .ok true) (hqr : holds q "==" r = .ok true) :
    holds p "==" r = .ok true
  le_defined {p q : String} (hp : IsNumeric p) (hq : IsNumeric q) : ∃ b, holds p "<=" q = .ok b
  ge_converse {p q : String} (hp : IsNumeric p) (hq : IsNumeric q) :
    holds p ">=" q = holds q "<=" p
  le_refl {p : String} (hp : IsNumeric p) : holds p "<=" p = .ok true
  le_trans {p q r : String} (hp : IsNumeric p) (hq : IsNumeric q) (hr : IsNumeric r)
    (hpq : holds p "<=" q = .ok true) (hqr : holds q "<=" r = .ok true) :
    holds p "<=" r = .ok true
  le_total {p q : String} (hp : IsNumeric p) (hq : IsNumeric q) :
    holds p "<=" q = .ok true ∨ holds q "<=" p = .ok true
  le_and_ge {p q : String} (hp : IsNumeric p) (hq : IsNumeric q) :
    (holds p "<=" q = .ok true ∧ holds p ">=" q = .ok true) ↔ holds p "==" q = .ok true

/-- The operands mean one integer, or they are one text. -/
def Alike (p q : String) : Prop :=
  (∃ z, Means p z ∧ Means q z) ∨ (¬IsNumeric p ∧ p = q)

theorem Alike.refl (p : String) : Alike p p := by
  by_cases hp : IsNumeric p
  · obtain ⟨z, hz⟩ := hp
    exact .inl ⟨z, hz, hz⟩
  · exact .inr ⟨hp, rfl⟩

/-- An operand in the middle is numeric for both of its neighbours, or for none. -/
theorem Alike.trans {p q r : String} (hpq : Alike p q) (hqr : Alike q r) : Alike p r := by
  rcases hpq with ⟨x, hp, hq⟩ | ⟨hp, rfl⟩
  · rcases hqr with ⟨y, hq', hr⟩ | ⟨hq', -⟩
    · cases hq.1.unique hq'.1
      exact .inl ⟨x, hp, hr⟩
    · exact absurd ⟨x, hq⟩ hq'
  · exact hqr

theorem ok_decide_iff {prop : Prop} [Decidable prop] :
    (Except.ok (decide prop) : Except ComparisonError Bool) = .ok true ↔ prop :=
  ⟨fun h => of_decide_eq_true (Except.ok.inj h), fun h => congrArg Except.ok (decide_eq_true h)⟩

namespace Decides

variable {holds : String → String → String → Except ComparisonError Bool} {p q : String}

/-- Two operands are both numeric, or are not compared at all, or are both texts. -/
theorem cases (h : Decides holds) (p q : String) :
    (∃ x y, Means p x ∧ Means q y) ∨
    ((IsNumeric p ↔ ¬IsNumeric q) ∧ ∀ operator, holds p operator q = .error .integerWithText ∧
      holds q operator p = .error .integerWithText) ∨
    (¬IsNumeric p ∧ ¬IsNumeric q) := by
  by_cases hp : IsNumeric p
  · by_cases hq : IsNumeric q
    · obtain ⟨x, hx⟩ := hp
      obtain ⟨y, hy⟩ := hq
      exact .inl ⟨x, y, hx, hy⟩
    · exact .inr (.inl ⟨iff_of_true hp hq, h.mixed hp hq⟩)
  · by_cases hq : IsNumeric q
    · exact .inr (.inl ⟨iff_of_false hp (not_not_intro hq), fun operator =>
        (h.mixed hq hp operator).symm⟩)
    · exact .inr (.inr ⟨hp, hq⟩)

/-- **Operands are equal where they are alike.** -/
theorem eq_iff_alike (h : Decides holds) : holds p "==" q = .ok true ↔ Alike p q := by
  rcases h.cases p q with ⟨x, y, hx, hy⟩ | ⟨hkinds, herror⟩ | ⟨hp, hq⟩
  · rw [(h.integers hx hy).1, ok_decide_iff]
    constructor
    · rintro rfl
      exact .inl ⟨x, hx, hy⟩
    · rintro (⟨z, hz, hz'⟩ | ⟨hp, -⟩)
      -- A numeral means one integer only.
      · exact (hx.1.unique hz.1).trans (hz'.1.unique hy.1)
      · exact absurd ⟨x, hx⟩ hp
  · rw [(herror _).1]
    refine ⟨nofun, ?_⟩
    rintro (⟨z, hz, hz'⟩ | ⟨hp, rfl⟩)
    · exact absurd ⟨z, hz'⟩ (hkinds.1 ⟨z, hz⟩)
    · exact absurd (hkinds.2 hp) hp
  · rw [(h.texts hp hq).1, ok_decide_iff]
    constructor
    · exact fun heq => .inr ⟨hp, heq⟩
    · rintro (⟨z, hz, -⟩ | ⟨-, heq⟩)
      · exact absurd ⟨z, hz⟩ hp
      · exact heq

theorem ne_eq_not (h : Decides holds) (p q : String) :
    holds p "!=" q = (holds p "==" q).map not := by
  rcases h.cases p q with ⟨x, y, hx, hy⟩ | ⟨-, herror⟩ | ⟨hp, hq⟩
  · rw [(h.integers hx hy).1, (h.integers hx hy).2.1]
    exact congrArg Except.ok decide_not
  · rw [(herror _).1, (herror _).1]
    rfl
  · rw [(h.texts hp hq).1, (h.texts hp hq).2]
    exact congrArg Except.ok decide_not

theorem eq_swap (h : Decides holds) (p q : String) : holds p "==" q = holds q "==" p := by
  rcases h.cases p q with ⟨x, y, hx, hy⟩ | ⟨-, herror⟩ | ⟨hp, hq⟩
  · rw [(h.integers hx hy).1, (h.integers hy hx).1]
    exact congrArg Except.ok (decide_eq_decide.2 eq_comm)
  · rw [(herror _).1, (herror _).2]
  · rw [(h.texts hp hq).1, (h.texts hq hp).1]
    exact congrArg Except.ok (decide_eq_decide.2 eq_comm)

/-- Numeric operands are ordered as the integers that they mean. -/
theorem le_iff (h : Decides holds) {x y : Int} (hp : Means p x) (hq : Means q y) :
    holds p "<=" q = .ok true ↔ x ≤ y := by
  rw [(h.integers hp hq).2.2.1, ok_decide_iff]

/-- **The laws of comparisons follow from what comparisons decide.** -/
theorem lawful (h : Decides holds) : Lawful holds where
  ne_eq_not := h.ne_eq_not
  eq_refl p := h.eq_iff_alike.2 (.refl p)
  eq_comm := h.eq_swap
  eq_trans hpq hqr := h.eq_iff_alike.2 ((h.eq_iff_alike.1 hpq).trans (h.eq_iff_alike.1 hqr))
  le_defined := by
    rintro p q ⟨x, hx⟩ ⟨y, hy⟩
    exact ⟨_, (h.integers hx hy).2.2.1⟩
  ge_converse := by
    rintro p q ⟨x, hx⟩ ⟨y, hy⟩
    rw [(h.integers hx hy).2.2.2, (h.integers hy hx).2.2.1]
  le_refl := by
    rintro p ⟨x, hx⟩
    exact (h.le_iff hx hx).2 (Int.le_refl x)
  le_trans := by
    rintro p q r ⟨x, hx⟩ ⟨y, hy⟩ ⟨z, hz⟩ hpq hqr
    rw [h.le_iff hx hy] at hpq
    rw [h.le_iff hy hz] at hqr
    exact (h.le_iff hx hz).2 (Int.le_trans hpq hqr)
  le_total := by
    rintro p q ⟨x, hx⟩ ⟨y, hy⟩
    rw [h.le_iff hx hy, h.le_iff hy hx]
    exact Int.le_total x y
  le_and_ge := by
    rintro p q ⟨x, hx⟩ ⟨y, hy⟩
    rw [(h.integers hx hy).2.2.2, h.le_iff hx hy, (h.integers hx hy).1, ok_decide_iff,
      ok_decide_iff]
    exact Int.le_antisymm_iff.symm

end Decides

/-- **The laws of comparisons.**  A numeric operand and another one are a coercion error,
numeric ones are compared as integers and others as texts; digits past the bounds are such
texts.  So the laws hold. -/
theorem comparison_laws (engine : Engine) :
    Decides (holds engine) ∧ ComparisonError.integerWithText.errorClass = .coercion ∧
      (∀ (p : String) (z : Int), Denotes p.toList z → ¬InRange z → ¬IsNumeric p) ∧
      Lawful (holds engine) :=
  ⟨decides_holds engine, rfl, fun _ _ => Numeral.not_isNumeric_of_denotes,
    (decides_holds engine).lawful⟩

/-- The ends of the range, one of them with a sign and a zero to spare, and a text just past
it. -/
theorem sampleEnds_compared :
    (Means "-09223372036854775808" (-2 ^ 63) ∧ Means "+9223372036854775807" (2 ^ 63 - 1) ∧
      ¬IsNumeric "9223372036854775808") ∧
    holds Regex.engine "-09223372036854775808" "<=" "+9223372036854775807" = .ok true ∧
    holds Regex.engine "-09223372036854775808" "==" "9223372036854775808" = .error .integerWithText ∧
    holds Regex.engine "9223372036854775808" "==" "+9223372036854775808" = .ok false := by
  obtain ⟨hdecides, -, hpast, -⟩ := comparison_laws Regex.engine
  have hleast : Means "-09223372036854775808" (-2 ^ 63) :=
    ⟨show Denotes _ (-(Numeral.natural 0 "09223372036854775808".toList : Int)) from
      .minus (by decide), by decide⟩
  have hgreatest : Means "+9223372036854775807" (2 ^ 63 - 1) :=
    ⟨show Denotes _ (Numeral.natural 0 "9223372036854775807".toList : Int) from
      .plus (by decide), by decide⟩
  have hplain : ¬IsNumeric "9223372036854775808" :=
    hpast _ (Numeral.natural 0 "9223372036854775808".toList) (.plain (by decide)) (by decide)
  have hplus : ¬IsNumeric "+9223372036854775808" :=
    hpast _ (Numeral.natural 0 "9223372036854775808".toList) (.plus (by decide)) (by decide)
  exact ⟨⟨hleast, hgreatest, hplain⟩, (hdecides.integers hleast hgreatest).2.2.1,
    (hdecides.mixed ⟨_, hleast⟩ hplain _).1, (hdecides.texts hplain hplus).1⟩

end RuleScript.Comparison
