/-
  RuleScript.Text.Numeral
  ───────────────────────
  **Decimal numerals of bounded size.**

  A numeral is an optional sign and one or more digits; leading zeros are
  allowed.  Signed numerals take `+` and `-`, unsigned ones `+` only.  The
  digits are read from the left, and the first one that is no digit, or that
  takes the number past its bound, says what is wrong.
-/

namespace RuleScript.Numeral

/-! ## §1. What can be wrong with a numeral. -/

/-- Why a text is not a numeral of the wanted size. -/
inductive Fault where
  | empty
  | invalidDigit
  | tooLarge
  | tooSmall
  deriving Repr, DecidableEq

/-- The wording of a fault. -/
def Fault.message : Fault → String
  | .empty => "cannot parse integer from empty string"
  | .invalidDigit => "invalid digit found in string"
  | .tooLarge => "number too large to fit in target type"
  | .tooSmall => "number too small to fit in target type"

/-! ## §2. Digits. -/

/-- The value of a decimal digit. -/
def digit? (c : Char) : Option Nat :=
  if '0' ≤ c ∧ c ≤ '9' then some (c.toNat - '0'.toNat) else none

/-- The value of a digit in base 16. -/
def hexDigit? (c : Char) : Option Nat :=
  if 'a' ≤ c ∧ c ≤ 'f' then some (c.toNat - 'a'.toNat + 10)
  else if 'A' ≤ c ∧ c ≤ 'F' then some (c.toNat - 'A'.toNat + 10)
  else digit? c

/-- Reads digits after those that gave `value`; a number past `limit` is the
fault `past`. -/
def readDigits (limit : Nat) (past : Fault) (value : Nat) : List Char → Except Fault Nat
  | [] => .ok value
  | c :: rest =>
    match digit? c with
    | none => .error .invalidDigit
    | some d =>
      if value * 10 + d ≤ limit then readDigits limit past (value * 10 + d) rest
      else .error past

/-! ## §3. Unsigned numerals. -/

/-- The natural number, at most `limit`, that a text spells. -/
def unsigned (limit : Nat) : List Char → Except Fault Nat
  | [] => .error .empty
  | ['+'] => .error .invalidDigit
  | '+' :: digits => readDigits limit .tooLarge 0 digits
  | digits => readDigits limit .tooLarge 0 digits

/-- The largest number of 16 bits. -/
def max16 : Nat := 65535

/-- The largest number of 32 bits. -/
def max32 : Nat := 4294967295

/-- The largest number of 64 bits. -/
def max64 : Nat := 18446744073709551615

/-- The natural number that a text spells, if it spells one of at most `limit`. -/
def unsigned? (limit : Nat) (s : List Char) : Option Nat := (unsigned limit s).toOption

/-! ## §4. Signed numerals. -/

/-- The largest signed number of 64 bits; the smallest is one further from zero. -/
def maxSigned64 : Nat := 9223372036854775807

/-- The 64-bit integer that a list of characters spells. -/
def signed : List Char → Except Fault Int64
  | [] => .error .empty
  | ['+'] => .error .invalidDigit
  | ['-'] => .error .invalidDigit
  | '-' :: digits => (readDigits (maxSigned64 + 1) .tooSmall 0 digits).map fun n => Int64.ofInt (-(n : Int))
  | '+' :: digits => (readDigits maxSigned64 .tooLarge 0 digits).map fun n => Int64.ofInt n
  | digits => (readDigits maxSigned64 .tooLarge 0 digits).map fun n => Int64.ofInt n

/-- The 64-bit integer that a text spells. -/
def integer (s : String) : Except Fault Int64 := signed s.toList

/-- The 64-bit integer that a text spells, if it spells one. -/
def integer? (s : String) : Option Int64 := (integer s).toOption

/-- The shortest numeral of an integer. -/
def write (n : Int64) : String := toString n.toInt

end RuleScript.Numeral
