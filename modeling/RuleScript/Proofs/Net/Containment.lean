/-
  RuleScript.Proofs.Net.Containment
  ─────────────────────────────────
  **Blocks of addresses are blocks of numbers.**

  The addresses that agree with a base in their first bits are as many as there are values of
  the other bits, they follow each other, and the first of them is a multiple of their number.
  So a shorter length makes a larger block around the same base, and length 0 takes in the
  whole family.

  Main results:
    • `Block.contains_iff` — which addresses a block holds.
    • `Block.containsBy_congr` — how far numbers are shifted.
    • `Block.ofText?_eq_none_iff` — which texts spell no block.
    • `Address.ofText?_eq_some_iff` — which texts name an address.
-/
import Mathlib
import RuleScript.Net.Block
import RuleScript.Proofs.Text.Cut

namespace RuleScript.Net

/-! ## §1. Aligned blocks of numbers. -/

/-- The number `n` is one of the `size` numbers in a row from a multiple of `size` on that
`base` is one of, too. -/
def InRow (size base n : Nat) : Prop :=
  ∃ start, size ∣ start ∧ (start ≤ base ∧ base < start + size) ∧ (start ≤ n ∧ n < start + size)

theorem div_eq_of_row {size start n : Nat} (hdvd : size ∣ start) (hlow : start ≤ n)
    (hhigh : n < start + size) : n / size = start / size := by
  obtain ⟨k, rfl⟩ := hdvd
  have hsize : 0 < size := by omega
  rw [Nat.mul_div_cancel_left k hsize]
  exact Nat.div_eq_of_lt_le (by rwa [Nat.mul_comm]) (by rwa [Nat.succ_mul, Nat.mul_comm k])

/-- Numbers are in one row just if division takes them to one number. -/
theorem inRow_iff {size base n : Nat} (hsize : 0 < size) :
    InRow size base n ↔ base / size = n / size := by
  constructor
  · rintro ⟨start, hdvd, hbase, hn⟩
    rw [div_eq_of_row hdvd hbase.1 hbase.2, div_eq_of_row hdvd hn.1 hn.2]
  · intro h
    have hbase := Nat.div_add_mod base size
    have hn := Nat.div_add_mod n size
    have hbase' := Nat.mod_lt base hsize
    have hn' := Nat.mod_lt n hsize
    rw [← h] at hn
    exact ⟨size * (base / size), Nat.dvd_mul_right _ _, by omega, by omega⟩

/-- A larger row with more room is around a smaller one. -/
theorem InRow.mono {size size' base n : Nat} (h : InRow size base n) (hsize : 0 < size)
    (hdvd : size ∣ size') (hsize' : 0 < size') : InRow size' base n := by
  obtain ⟨k, rfl⟩ := hdvd
  rw [inRow_iff hsize] at h
  rw [inRow_iff hsize', ← Nat.div_div_eq_div_mul, ← Nat.div_div_eq_div_mul, h]

/-! ## §2. Blocks of addresses. -/

namespace Address

/-- The address as a number. -/
def value : Address → Nat
  | .v4 bits => bits.toNat
  | .v6 bits => bits.toNat

theorem value_lt (address : Address) : address.value < 2 ^ address.width := by
  cases address with
  | v4 bits => exact bits.isLt
  | v6 bits => exact bits.isLt

end Address

namespace Block

/-- The address is of the family of `base`, and of the block of `2 ^ (width - length)`
addresses in a row that `base` is in. -/
def Holds (base : Address) (length : Nat) (address : Address) : Prop :=
  address.width = base.width ∧
    InRow (2 ^ (base.width - length)) base.value address.value

/-- Numbers agree in their first bits just if they are in one row. -/
theorem agreeBy_iff {base value : BitVec 128} {length width : Nat}
    (hbase : base.toNat < 2 ^ width) (hvalue : value.toNat < 2 ^ width) :
    agreeBy (· >>> ·) base value length width = true ↔
      InRow (2 ^ (width - length)) base.toNat value.toNat := by
  rw [inRow_iff (Nat.two_pow_pos _)]
  unfold agreeBy
  by_cases hzero : length = 0
  -- Nothing is compared, and there is one row only.
  · rw [if_pos hzero, hzero, Nat.sub_zero, Nat.div_eq_of_lt hbase, Nat.div_eq_of_lt hvalue]
    exact iff_of_true rfl rfl
  · rw [if_neg hzero, beq_iff_eq, ← BitVec.toNat_inj, BitVec.toNat_ushiftRight,
      BitVec.toNat_ushiftRight, Nat.shiftRight_eq_div_pow, Nat.shiftRight_eq_div_pow]

/-- **A block holds the addresses of a row around its base.** -/
theorem contains_iff (block : Block) (address : Address) :
    block.contains address = true ↔ Holds block.base block.length address := by
  obtain ⟨base, length, hlength⟩ := block
  cases base with
  | v4 base =>
      cases address with
      | v4 value =>
          -- Wider numbers are the same numbers.
          have hwide (bits : BitVec 32) : (bits.setWidth 128).toNat = bits.toNat :=
            BitVec.toNat_setWidth_of_le (by decide)
          have hagree : agreeBy (· >>> ·) (base.setWidth 128) (value.setWidth 128) length 32 = true
              ↔ _ :=
            agreeBy_iff ((hwide base).symm ▸ base.isLt) ((hwide value).symm ▸ value.isLt)
          rw [hwide, hwide] at hagree
          exact hagree.trans ⟨fun h => ⟨rfl, h⟩, fun h => h.2⟩
      | v6 value => exact ⟨nofun, fun h => absurd (show 128 = 32 from h.1) (by decide)⟩
  | v6 base =>
      cases address with
      | v4 value => exact ⟨nofun, fun h => absurd (show 32 = 128 from h.1) (by decide)⟩
      | v6 value =>
          exact (agreeBy_iff base.isLt value.isLt).trans ⟨fun h => ⟨rfl, h⟩, fun h => h.2⟩

/-- A smaller length makes a larger block. -/
theorem Holds.mono {base address : Address} {length length' : Nat} (h : Holds base length address)
    (hle : length' ≤ length) : Holds base length' address := by
  have hdvd : 2 ^ (base.width - length) ∣ 2 ^ (base.width - length') :=
    Nat.pow_dvd_pow 2 (Nat.sub_le_sub_left hle base.width)
  exact ⟨h.1, h.2.mono (Nat.two_pow_pos _) hdvd (Nat.two_pow_pos _)⟩

/-- A block of length 0 holds the family of its base. -/
theorem holds_zero {base address : Address} (hfamily : address.width = base.width) :
    Holds base 0 address := by
  refine ⟨hfamily, 0, Nat.dvd_zero _, ⟨Nat.zero_le _, ?_⟩, Nat.zero_le _, ?_⟩
  · rw [Nat.zero_add]
    exact base.value_lt
  · rw [Nat.zero_add, Nat.sub_zero, ← hfamily]
    exact address.value_lt

/-- **Numbers are shifted by less than 128 bits**: where two shifts differ only from there on, a
block holds the same addresses by the one as by the other. -/
theorem containsBy_congr {shift : BitVec 128 → Nat → BitVec 128}
    (h : ∀ bits amount, amount < 128 → shift bits amount = bits >>> amount) (block : Block)
    (address : Address) : block.containsBy shift address = block.contains address := by
  have hagree (base value : BitVec 128) {width : Nat} (hwidth : width ≤ 128) :
      agreeBy shift base value block.length width
        = agreeBy (· >>> ·) base value block.length width := by
    unfold agreeBy
    by_cases hzero : block.length = 0
    · rw [if_pos hzero, if_pos hzero]
    · have hamount : width - block.length < 128 := by omega
      rw [if_neg hzero, if_neg hzero, h _ _ hamount, h _ _ hamount]
  unfold contains containsBy
  split
  · exact hagree _ _ (by decide)
  · exact hagree _ _ (Nat.le_refl _)
  · rfl

/-! ## §3. Texts of blocks. -/

/-- The text is an address, the first `/`, and a number of bits that the address has. -/
def Spells (s : String) (base : Address) (length : Nat) : Prop :=
  ∃ address digits, s.toList = address ++ '/' :: digits ∧ '/' ∉ address ∧
    Address.parse? address = some base ∧
    Numeral.unsigned? Numeral.max32 digits = some length ∧ length ≤ base.width

/-- The text has no `/`, or what is in front of the first one is no address, or what is behind
it is no number, or one of more bits than the address has. -/
def Misspelt (s : String) : Prop :=
  '/' ∉ s.toList ∨
  ∃ address digits, s.toList = address ++ '/' :: digits ∧ '/' ∉ address ∧
    (Address.parse? address = none ∨ ∃ base, Address.parse? address = some base ∧
      ∀ length, Numeral.unsigned? Numeral.max32 digits = some length → base.width < length)

theorem ofText?_of_cut {s : String} {address digits : List Char}
    (hs : s.toList = address ++ '/' :: digits) (hfirst : '/' ∉ address) :
    ofText? s = (Address.parse? address).bind fun base =>
      (Numeral.unsigned? Numeral.max32 digits).bind fun length =>
        if h : length ≤ base.width then some ⟨base, length, h⟩ else none := by
  unfold ofText?
  rw [Text.cutAt?_char_iff.2 ⟨hs, hfirst⟩]
  rfl

/-- A text is read as a block, or it is misspelt. -/
theorem ofText?_cases (s : String) :
    (∃ block, ofText? s = some block ∧ Spells s block.base block.length) ∨
      (ofText? s = none ∧ Misspelt s) := by
  cases hcut : Text.cutAt? ['/'] s.toList with
  | none =>
      refine .inr ⟨?_, .inl (Text.cutAt?_char_eq_none_iff.1 hcut)⟩
      unfold ofText?
      rw [hcut]
      rfl
  | some parts =>
      obtain ⟨address, digits⟩ := parts
      obtain ⟨hs, hfirst⟩ := Text.cutAt?_char_iff.1 hcut
      have hread := ofText?_of_cut hs hfirst
      cases hbase : Address.parse? address with
      | none =>
          rw [hbase] at hread
          exact .inr ⟨hread, .inr ⟨address, digits, hs, hfirst, .inl hbase⟩⟩
      | some base =>
          rw [hbase] at hread
          cases hlength : Numeral.unsigned? Numeral.max32 digits with
          | none =>
              rw [hlength] at hread
              refine .inr ⟨hread, .inr ⟨address, digits, hs, hfirst, .inr ⟨base, hbase, ?_⟩⟩⟩
              rw [hlength]
              exact nofun
          | some length =>
              rw [hlength] at hread
              by_cases hle : length ≤ base.width
              · rw [Option.bind_some, Option.bind_some, dif_pos hle] at hread
                exact .inl ⟨_, hread, address, digits, hs, hfirst, hbase, hlength, hle⟩
              · rw [Option.bind_some, Option.bind_some, dif_neg hle] at hread
                refine .inr ⟨hread, .inr ⟨address, digits, hs, hfirst, .inr ⟨base, hbase, ?_⟩⟩⟩
                intro length' hlength'
                cases hlength.symm.trans hlength'
                exact Nat.lt_of_not_le hle

/-- **A text that spells a block is read as that block.** -/
theorem Spells.ofText? {s : String} {base : Address} {length : Nat} (h : Spells s base length) :
    ∃ hle : length ≤ base.width, Block.ofText? s = some ⟨base, length, hle⟩ := by
  obtain ⟨address, digits, hs, hfirst, hbase, hlength, hle⟩ := h
  refine ⟨hle, ?_⟩
  rw [ofText?_of_cut hs hfirst, hbase, hlength, Option.bind_some, Option.bind_some, dif_pos hle]

theorem Spells.slash_mem {s : String} {base : Address} {length : Nat} (h : Spells s base length) :
    '/' ∈ s.toList := by
  obtain ⟨address, digits, hs, -⟩ := h
  rw [hs]
  exact List.mem_append_right _ List.mem_cons_self

/-- What is misspelt is what spells no block. -/
theorem misspelt_iff {s : String} : Misspelt s ↔ ¬∃ base length, Spells s base length := by
  constructor
  · rintro hnot ⟨base, length, address, digits, hs, hfirst, hbase, hlength, hle⟩
    rcases hnot with hslash | ⟨address', digits', hs', hfirst', hnot⟩
    · rw [hs] at hslash
      exact hslash (List.mem_append_right _ List.mem_cons_self)
    -- A text has one first place for `/`.
    · have hcut := Text.cutAt?_char_iff.2 ⟨hs, hfirst⟩
      rw [Text.cutAt?_char_iff.2 ⟨hs', hfirst'⟩] at hcut
      cases hcut
      rw [hbase] at hnot
      rcases hnot with hnone | ⟨base', hbase', hlarge⟩
      · cases hnone
      · cases hbase'
        exact absurd (hlarge length hlength) (Nat.not_lt.2 hle)
  · intro hnot
    rcases ofText?_cases s with ⟨block, -, hspells⟩ | ⟨-, hmisspelt⟩
    · exact absurd ⟨_, _, hspells⟩ hnot
    · exact hmisspelt

/-- **What is misspelt is read as no block.** -/
theorem ofText?_eq_none_iff {s : String} : ofText? s = none ↔ Misspelt s := by
  refine ⟨fun hnone => ?_, fun hmisspelt => ?_⟩
  · rcases ofText?_cases s with ⟨block, hsome, -⟩ | ⟨-, hmisspelt⟩
    · rw [hnone] at hsome
      cases hsome
    · exact hmisspelt
  · rcases ofText?_cases s with ⟨block, -, hspells⟩ | ⟨hnone, -⟩
    · exact absurd ⟨_, _, hspells⟩ (misspelt_iff.1 hmisspelt)
    · exact hnone

end Block

/-! ## §4. Texts of addresses. -/

namespace Address

/-- The text is the address, or the address and a port. -/
def Names (s : String) (address : Address) : Prop :=
  parse? s.toList = some address ∨ parseWithPort? s.toList = some address

theorem expect_eq_some_iff {c : Char} {s rest : List Char} :
    expect c s = some rest ↔ s = c :: rest := by
  cases s with
  | nil => exact ⟨nofun, nofun⟩
  | cons d others =>
      show (if d = c then some others else none) = some rest ↔ _
      by_cases hd : d = c
      · rw [if_pos hd, hd, List.cons.injEq, Option.some.injEq]
        exact ⟨fun h => ⟨rfl, h⟩, fun h => h.2⟩
      · rw [if_neg hd, List.cons.injEq]
        exact ⟨nofun, fun h => absurd h.1 hd⟩

/-- Nothing that starts with a bracket is an address. -/
theorem parse?_bracket (s : List Char) : parse? ('[' :: s) = none := by
  rfl

/-- **No text is both an address and one with a port.**  Four bytes are read up to the colon
in front of the port, and groups have a bracket in front of them. -/
theorem parse?_eq_none_of_port {s : List Char} {address : Address}
    (h : parseWithPort? s = some address) : parse? s = none := by
  unfold parseWithPort? at h
  cases hfour : readV4WithPort s with
  | some read =>
      obtain ⟨⟨bare, rest⟩, hbare, hrest⟩ := Option.bind_eq_some_iff.1 hfour
      obtain ⟨_, hport, -⟩ := Option.bind_eq_some_iff.1 hrest
      obtain ⟨digits, hcolon, -⟩ := Option.bind_eq_some_iff.1 hport
      -- The same four bytes are read without a port, and the colon is left over.
      have hleft : rest = ':' :: digits := expect_eq_some_iff.1 hcolon
      unfold parse? Address.read
      rw [hbare, hleft]
      rfl
  | none =>
      rw [hfour, Option.none_or] at h
      cases hgroups : readV6WithPort s with
      | none =>
          rw [hgroups] at h
          cases h
      | some read =>
          obtain ⟨inner, hbracket, -⟩ := Option.bind_eq_some_iff.1 hgroups
          rw [expect_eq_some_iff.1 hbracket]
          exact parse?_bracket inner

theorem ofText?_eq_some_iff {s : String} {address : Address} :
    ofText? s = some address ↔ Names s address := by
  unfold ofText? Names
  cases hparse : parse? s.toList with
  | some bare =>
      rw [Option.some_or]
      refine ⟨.inl, ?_⟩
      rintro (h | hport)
      · exact h
      · rw [parse?_eq_none_of_port hport] at hparse
        cases hparse
  | none =>
      rw [Option.none_or]
      exact ⟨.inr, fun h => h.resolve_left nofun⟩

end Address

end RuleScript.Net
