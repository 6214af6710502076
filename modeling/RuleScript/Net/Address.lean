/-
  RuleScript.Net.Address
  ──────────────────────
  **Internet addresses as text.**

  Four bytes are written `a.b.c.d`, each number of one to three digits without
  leading zeros.  Eight groups are written in base 16 between colons; the last
  two may be written as four bytes, and one `::` stands for one or more groups
  that are zero.  With a port the first form reads `a.b.c.d:port`, and the
  second `[groups]:port` or `[groups%scope]:port`.

  A reader takes its text from the front of a list and returns what is left; it
  is `none` when the front does not have the form.
-/
import RuleScript.Text.Numeral

namespace RuleScript.Net

/-- An address of either family. -/
inductive Address where
  | v4 (value : BitVec 32)
  | v6 (value : BitVec 128)
  deriving Repr, DecidableEq

namespace Address

/-- How many bits an address of this family has. -/
def width : Address → Nat
  | .v4 _ => 32
  | .v6 _ => 128

/-! ## §1. Numbers. -/

/-- The digits at the front, by value. -/
def takeDigits (digit? : Char → Option Nat) : List Char → List Nat × List Char
  | [] => ([], [])
  | c :: rest =>
    match digit? c with
    | none => ([], c :: rest)
    | some d =>
      let more := takeDigits digit? rest
      (d :: more.1, more.2)

/-- The number that digits spell in a base. -/
def ofDigits (base : Nat) (digits : List Nat) : Nat :=
  digits.foldl (fun value d => value * base + d) 0

/-- One byte of an address: one to three decimal digits, no leading zero, and
a value of at most 255. -/
def readByte (s : List Char) : Option (Nat × List Char) :=
  let digits := takeDigits Numeral.digit? s
  let value := ofDigits 10 digits.1
  if digits.1.length = 0 ∨ 3 < digits.1.length then none
  else if digits.1.head? = some 0 ∧ 1 < digits.1.length then none
  else if 255 < value then none
  else some (value, digits.2)

/-- One group of an address: one to four digits in base 16. -/
def readGroup (s : List Char) : Option (Nat × List Char) :=
  let digits := takeDigits Numeral.hexDigit? s
  if digits.1.length = 0 ∨ 4 < digits.1.length then none
  else some (ofDigits 16 digits.1, digits.2)

/-- A decimal number of at most `limit`; leading zeros are allowed. -/
def readNumber (limit : Nat) (s : List Char) : Option (Nat × List Char) :=
  let digits := takeDigits Numeral.digit? s
  let value := ofDigits 10 digits.1
  if digits.1.length = 0 ∨ limit < value then none else some (value, digits.2)

/-! ## §2. Addresses. -/

/-- The character `c` at the front. -/
def expect (c : Char) : List Char → Option (List Char)
  | [] => none
  | d :: rest => if d = c then some rest else none

/-- Four bytes, as one number. -/
def readBytes (s : List Char) : Option (Nat × List Char) := do
  let (a, s) ← readByte s
  let s ← expect '.' s
  let (b, s) ← readByte s
  let s ← expect '.' s
  let (c, s) ← readByte s
  let s ← expect '.' s
  let (d, s) ← readByte s
  return (ofDigits 256 [a, b, c, d], s)

/-- The front of a group: nothing before the first one, a colon before the others. -/
def groupStart (first : Bool) (s : List Char) : Option (List Char) :=
  if first then some s else expect ':' s

/-- Groups read so far, and whether four bytes ended them. -/
structure Groups where
  values : List Nat
  bytesLast : Bool
  deriving Repr, DecidableEq

/-- At most `room` groups.  Four bytes stand for two groups, so they need room
for two, and nothing follows them. -/
def readGroups : (room : Nat) → (first : Bool) → List Char → Groups × List Char
  | 0, _, s => (⟨[], false⟩, s)
  | room + 1, first, s =>
    -- Four bytes are tried first: their first number could be a group too.
    let bytes := if room = 0 then none else (groupStart first s).bind readBytes
    match bytes with
    | some (value, rest) => (⟨[value / 65536, value % 65536], true⟩, rest)
    | none =>
      match (groupStart first s).bind readGroup with
      | none => (⟨[], false⟩, s)
      | some (value, rest) =>
        let more := readGroups room false rest
        (⟨value :: more.1.values, more.1.bytesLast⟩, more.2)

/-- The address that eight groups make. -/
def ofGroups (values : List Nat) : Address := .v6 (BitVec.ofNat 128 (ofDigits 65536 values))

/-- An address of four bytes. -/
def readV4 (s : List Char) : Option (Address × List Char) :=
  (readBytes s).map fun (value, rest) => (.v4 (BitVec.ofNat 32 value), rest)

/-- An address of eight groups.  Four bytes may not stand right before `::`. -/
def readV6 (s : List Char) : Option (Address × List Char) :=
  let (head, s) := readGroups 8 true s
  if head.values.length = 8 then some (ofGroups head.values, s)
  else if head.bytesLast then none
  else do
    let s ← expect ':' s
    let s ← expect ':' s
    let (tail, s) := readGroups (7 - head.values.length) true s
    let zeros := List.replicate (8 - head.values.length - tail.values.length) 0
    return (ofGroups (head.values ++ zeros ++ tail.values), s)

/-- An address of either family; four bytes win. -/
def read (s : List Char) : Option (Address × List Char) := (readV4 s).or (readV6 s)

/-! ## §3. Ports. -/

/-- A colon and a port. -/
def readPort (s : List Char) : Option (List Char) := do
  let s ← expect ':' s
  let (_, s) ← readNumber Numeral.max16 s
  return s

/-- What follows a scope, if one stands here. -/
def skipScope (s : List Char) : List Char :=
  match (expect '%' s).bind (readNumber Numeral.max32) with
  | some (_, rest) => rest
  | none => s

/-- Four bytes and a port. -/
def readV4WithPort (s : List Char) : Option (Address × List Char) := do
  let (address, s) ← readV4 s
  let s ← readPort s
  return (address, s)

/-- Groups in brackets and a port. -/
def readV6WithPort (s : List Char) : Option (Address × List Char) := do
  let s ← expect '[' s
  let (address, s) ← readV6 s
  let s ← expect ']' (skipScope s)
  let s ← readPort s
  return (address, s)

/-! ## §4. Whole texts. -/

/-- The value read, when nothing is left. -/
def whole (result : Option (Address × List Char)) : Option Address :=
  match result with
  | some (address, []) => some address
  | _ => none

/-- The address that a text spells. -/
def parse? (s : List Char) : Option Address := whole (read s)

/-- The address in front of the port that a text spells. -/
def parseWithPort? (s : List Char) : Option Address :=
  whole ((readV4WithPort s).or (readV6WithPort s))

/-- The address that a text names, alone or with a port. -/
def ofText? (s : String) : Option Address :=
  (parse? s.toList).or (parseWithPort? s.toList)

end Address

end RuleScript.Net
