/-
  RuleScript.Proofs.Comparison.Network
  ────────────────────────────────────
  **The operator for blocks of addresses.**

  The block is looked at first: if it is misspelt, that is the error, whatever the other
  operand is.  Else the comparison has an answer, and it holds for what names an address of
  the block.  An operand with `/` in it is no integer, so a block never meets the other table
  of operators.

  Main results:
    • `holds_match_net` — the answer, by the block that the right operand spells.
    • `match_net_laws` — errors, answers, and how they hang on the length.
-/
import Mathlib
import RuleScript.Comparison
import RuleScript.Proofs.Net.Containment
import RuleScript.Proofs.Text.Numeral
import RuleScript.Regex.Replace

namespace RuleScript.Comparison

open Net (Address Block)
open Net.Block (Holds Misspelt Spells)

/-- What has a `/` in it is no integer. -/
theorem integer?_eq_none_of_slash {s : String} (h : '/' ∈ s.toList) :
    Numeral.integer? s = none := by
  rw [Numeral.integer?_eq_none_iff]
  rintro ⟨z, hdenotes, -⟩
  have hdigits {digits : List Char} (hall : Numeral.isDigits digits = true) : '/' ∉ digits := by
    intro hmem
    exact absurd (List.all_eq_true.1 (Numeral.isDigits_iff.1 hall).2 _ hmem) (by decide)
  generalize s.toList = text at h hdenotes
  cases hdenotes with
  | plain digital => exact hdigits digital h
  | plus digital => exact hdigits digital ((List.mem_cons.1 h).resolve_left (by decide))
  | minus digital => exact hdigits digital ((List.mem_cons.1 h).resolve_left (by decide))

variable {a n : String}

theorem holds_match_net (engine : Engine) (ha : Numeral.integer? a = none)
    (hn : Numeral.integer? n = none) : holds engine a "match_net" n = inBlock a n := by
  unfold holds
  rw [ha, hn]
  rfl

theorem inBlock_of_misspelt (h : Misspelt n) : inBlock a n = .error (.invalidBlock n) := by
  unfold inBlock
  rw [Block.ofText?_eq_none_iff.2 h]

/-- **The answer for a block**: whether the other operand names an address in it. -/
theorem inBlock_of_spells {base : Address} {length : Nat} (h : Spells n base length) :
    ∃ answer, inBlock a n = .ok answer ∧
      (answer = true ↔ ∃ address, Address.Names a address ∧ Holds base length address) := by
  obtain ⟨hle, hread⟩ := h.ofText?
  unfold inBlock
  rw [hread]
  refine ⟨_, rfl, ?_⟩
  rw [Option.any_eq_true]
  simp only [Address.ofText?_eq_some_iff, Block.contains_iff]

/-- Where a block has the answer, it holds an address that the operand names. -/
theorem inBlock_eq_true_iff {base : Address} {length : Nat} (h : Spells n base length) :
    inBlock a n = .ok true ↔ ∃ address, Address.Names a address ∧ Holds base length address := by
  obtain ⟨answer, hanswer, hiff⟩ := inBlock_of_spells (a := a) h
  rw [hanswer, ← hiff, Except.ok.injEq]

/-- **The laws of the operator for blocks**, for operands that are no integers.  It is an error
just if the right operand is misspelt, and that is what spells no block.  Else it has an
answer, and holds just if the left operand names an address, bare or with a port, of the
family of the base and of its row of `2 ^ (width - length)` numbers.  Shifts of 128 bits or
more have no part in that.  What holds for a length holds for all smaller ones, and length 0
takes in the family. -/
theorem match_net_laws (engine : Engine) :
    (∀ a n, Numeral.integer? a = none → Numeral.integer? n = none →
      (holds engine a "match_net" n = .error (.invalidBlock n) ↔ Misspelt n) ∧
      ∀ base length, Spells n base length →
        ∃ answer, holds engine a "match_net" n = .ok answer ∧
          (answer = true ↔ ∃ address, Address.Names a address ∧ Holds base length address)) ∧
    (∀ n, Misspelt n ↔ ¬∃ base length, Spells n base length) ∧
    (∀ shift : BitVec 128 → Nat → BitVec 128,
      (∀ bits amount, amount < 128 → shift bits amount = bits >>> amount) →
      ∀ (block : Block) address, block.containsBy shift address = block.contains address) ∧
    (∀ a n n' base length length', Numeral.integer? a = none →
      Spells n base length → Spells n' base length' → length' ≤ length →
      holds engine a "match_net" n = .ok true → holds engine a "match_net" n' = .ok true) ∧
    (∀ a n base address, Numeral.integer? a = none → Spells n base 0 →
      Address.Names a address → address.width = base.width →
      holds engine a "match_net" n = .ok true) := by
  refine ⟨fun a n ha hn => ⟨?_, ?_⟩, fun n => Block.misspelt_iff,
    fun shift hshift block => Block.containsBy_congr hshift block, ?_, ?_⟩
  · rw [holds_match_net engine ha hn]
    refine ⟨fun herror => ?_, inBlock_of_misspelt⟩
    -- What spells a block has an answer, and that is no error.
    by_contra hspelt
    rw [Block.misspelt_iff, not_not] at hspelt
    obtain ⟨base, length, hspells⟩ := hspelt
    obtain ⟨answer, hanswer, -⟩ := inBlock_of_spells (a := a) hspells
    rw [herror] at hanswer
    cases hanswer
  · intro base length hspells
    rw [holds_match_net engine ha hn]
    exact inBlock_of_spells hspells
  · intro a n n' base length length' ha hspells hspells' hle hholds
    rw [holds_match_net engine ha (integer?_eq_none_of_slash hspells.slash_mem),
      inBlock_eq_true_iff hspells] at hholds
    rw [holds_match_net engine ha (integer?_eq_none_of_slash hspells'.slash_mem),
      inBlock_eq_true_iff hspells']
    obtain ⟨address, hnames, hin⟩ := hholds
    exact ⟨address, hnames, hin.mono hle⟩
  · intro a n base address ha hspells hnames hfamily
    rw [holds_match_net engine ha (integer?_eq_none_of_slash hspells.slash_mem),
      inBlock_eq_true_iff hspells]
    exact ⟨address, hnames, Block.holds_zero hfamily⟩

/-- A base with bits behind its first 33. -/
def sampleBase : Address := .v6 0x20010DB800000000000000000000FFFF

/-- An address of the block of 33 bits around that base. -/
def sampleInside : Address := .v6 0x20010DB87FFF00000000000000000001

/-- The sample block holds the address, and so does the block around it that is twice as
large. -/
theorem sampleBase_matches :
    (Spells "2001:db8::ffff/33" sampleBase 33 ∧ Spells "2001:db8::ffff/32" sampleBase 32 ∧
      Numeral.integer? "[2001:db8:7fff::1]:443" = none ∧
      Address.Names "[2001:db8:7fff::1]:443" sampleInside ∧ Holds sampleBase 33 sampleInside) ∧
    holds Regex.engine "[2001:db8:7fff::1]:443" "match_net" "2001:db8::ffff/33" = .ok true ∧
    holds Regex.engine "[2001:db8:7fff::1]:443" "match_net" "2001:db8::ffff/32" = .ok true := by
  have hnarrow : Spells "2001:db8::ffff/33" sampleBase 33 :=
    ⟨"2001:db8::ffff".toList, "33".toList, rfl, by decide, by decide +kernel, rfl, by decide⟩
  have hwide : Spells "2001:db8::ffff/32" sampleBase 32 :=
    ⟨"2001:db8::ffff".toList, "32".toList, rfl, by decide, by decide +kernel, rfl, by decide⟩
  have htext : Numeral.integer? "[2001:db8:7fff::1]:443" = none := rfl
  have hnames : Address.Names "[2001:db8:7fff::1]:443" sampleInside := .inr (by decide +kernel)
  have hinside : Holds sampleBase 33 sampleInside :=
    (Block.contains_iff ⟨sampleBase, 33, by decide⟩ sampleInside).1 (by decide +kernel)
  obtain ⟨hanswers, -, -, hmono, -⟩ := match_net_laws Regex.engine
  obtain ⟨answer, hanswer, hiff⟩ := (hanswers "[2001:db8:7fff::1]:443" "2001:db8::ffff/33" htext
    (integer?_eq_none_of_slash hnarrow.slash_mem)).2 sampleBase 33 hnarrow
  cases hiff.2 ⟨sampleInside, hnames, hinside⟩
  exact ⟨⟨hnarrow, hwide, htext, hnames, hinside⟩, hanswer,
    hmono _ _ _ _ _ _ htext hnarrow hwide (by decide) hanswer⟩

end RuleScript.Comparison
