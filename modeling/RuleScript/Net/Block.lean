/-
  RuleScript.Net.Block
  ────────────────────
  **Blocks of addresses.**

  A block is written `base/length`: it holds the addresses of the base's family
  that agree with the base in their first `length` bits.  The base may have
  other bits set after them.
-/
import RuleScript.Net.Address
import RuleScript.Text.Split

namespace RuleScript.Net

/-- The addresses that agree with `base` in the first `length` bits. -/
structure Block where
  base : Address
  length : Nat
  length_le_width : length ≤ base.width
  deriving Repr, DecidableEq

namespace Block

/-- The block that a text spells: an address, the first `/` of the text, and a
number of bits that the address has. -/
def ofText? (s : String) : Option Block := do
  let (address, digits) ← Text.cutAt? ['/'] s.toList
  let base ← Address.parse? address
  let length ← Numeral.unsigned? Numeral.max32 digits
  if h : length ≤ base.width then some ⟨base, length, h⟩ else none

/-- The numbers agree in all but the last `width - length` of their `width` bits, told by a
shift to the right.  No bit is left to compare if `length` is 0; there is nothing to shift
then, and all numbers agree. -/
def agreeBy (shift : BitVec 128 → Nat → BitVec 128) (base value : BitVec 128)
    (length width : Nat) : Bool :=
  if length = 0 then true
  else shift base (width - length) == shift value (width - length)

/-- The address lies in the block, told by a shift to the right.  Addresses of four bytes are
shifted in 128 bits like the others. -/
def containsBy (shift : BitVec 128 → Nat → BitVec 128) (block : Block) (address : Address) :
    Bool :=
  match block.base, address with
  | .v4 base, .v4 value => agreeBy shift (base.setWidth 128) (value.setWidth 128) block.length 32
  | .v6 base, .v6 value => agreeBy shift base value block.length 128
  | _, _ => false

/-- The address lies in the block. -/
def contains (block : Block) (address : Address) : Bool :=
  block.containsBy (· >>> ·) address

end Block

end RuleScript.Net
