/-
  RuleScript.Unicode.CharSet
  ──────────────────────────
  **Sets of characters.**

  A set is a list of ranges of code points.  `ofRanges` sorts the ranges and
  joins those that touch, so that ranges stand in ascending order with a gap
  before each.  The surrogates are code points but no characters: the operations
  step over them, and two ranges with only surrogates between them stay two.
-/
import RuleScript.Text.Numeral

namespace RuleScript.Unicode

/-- A range of code points, both ends included. -/
structure Range where
  first : Nat
  last : Nat
  deriving Repr, DecidableEq

/-- A set of characters, as ranges in ascending order. -/
structure CharSet where
  ranges : List Range
  deriving Repr, DecidableEq

namespace CharSet

/-- The largest code point. -/
def maxCode : Nat := 0x10FFFF

/-! ## §1. Making sets. -/

/-- Joins each range to the one before it where the two touch. -/
def join (current : Range) : List Range → List Range
  | [] => [current]
  | r :: rest =>
    if r.first ≤ current.last + 1 then join ⟨current.first, max current.last r.last⟩ rest
    else current :: join r rest

/-- The characters in any of the ranges. -/
def ofRanges (ranges : List Range) : CharSet :=
  match ranges.mergeSort fun a b => decide (a.first ≤ b.first) with
  | [] => ⟨[]⟩
  | r :: rest => ⟨join r rest⟩

/-- No character. -/
def empty : CharSet := ⟨[]⟩

/-- One code point. -/
def single (code : Nat) : CharSet := ⟨[⟨code, code⟩]⟩

/-- The code points from `first` to `last`. -/
def range (first last : Nat) : CharSet := ⟨[⟨first, last⟩]⟩

/-- The code points from `first` to `last`, given as characters. -/
def between (first last : Char) : CharSet := range first.toNat last.toNat

/-! ## §2. Membership. -/

/-- The code point lies in one of the ranges; the search ends at the first
range that starts after it. -/
def memRanges (code : Nat) : List Range → Bool
  | [] => false
  | r :: rest => if code < r.first then false else code ≤ r.last || memRanges code rest

/-- The code point is in the set. -/
def hasCode (s : CharSet) (code : Nat) : Bool := memRanges code s.ranges

/-- The character is in the set. -/
def contains (s : CharSet) (c : Char) : Bool := s.hasCode c.toNat

/-! ## §3. Operations. -/

/-- The code of the character after the one with this code. -/
def nextCode (code : Nat) : Nat := if code = 0xD7FF then 0xE000 else code + 1

/-- The code of the character before the one with this code. -/
def prevCode (code : Nat) : Nat := if code = 0xE000 then 0xD7FF else code - 1

/-- What is in either set. -/
def union (a b : CharSet) : CharSet := ofRanges (a.ranges ++ b.ranges)

/-- The gaps after a range that ends at `last`, between the ranges that follow.
Where a gap holds surrogates only, its ends trade places, so that the characters
on its two sides count as being in it. -/
def gapsAfter (last : Nat) : List Range → List Range
  | [] => if last < maxCode then [⟨nextCode last, maxCode⟩] else []
  | r :: rest =>
    let start := nextCode last
    let stop := prevCode r.first
    ⟨min start stop, max start stop⟩ :: gapsAfter r.last rest

/-- What is not in the set. -/
def complement (s : CharSet) : CharSet :=
  match s.ranges with
  | [] => range 0 maxCode
  | r :: rest =>
    let gaps := gapsAfter r.last rest
    ⟨if 0 < r.first then ⟨0, prevCode r.first⟩ :: gaps else gaps⟩

/-- What lies in a range of both lists. -/
def meet : List Range → List Range → List Range
  | [], _ => []
  | _, [] => []
  | a :: as, b :: bs =>
    let rest := if a.last < b.last then meet as (b :: bs) else meet (a :: as) bs
    let common : Range := ⟨max a.first b.first, min a.last b.last⟩
    if common.first ≤ common.last then common :: rest else rest
termination_by as bs => as.length + bs.length

/-- What is in both sets. -/
def inter (a b : CharSet) : CharSet := ⟨meet a.ranges b.ranges⟩

/-- What lies in a range of the first list and in none of the second. -/
def without : List Range → List Range → List Range
  | [], _ => []
  | as, [] => as
  | a :: as, b :: bs =>
    if b.last < a.first then without (a :: as) bs
    else if a.last < b.first then a :: without as (b :: bs)
    else
      let rest :=
        if b.last < a.last then without (⟨nextCode b.last, a.last⟩ :: as) bs
        else without as (b :: bs)
      if a.first < b.first then ⟨a.first, prevCode b.first⟩ :: rest else rest
termination_by as bs => as.length + bs.length

/-- What is in `a` and not in `b`. -/
def diff (a b : CharSet) : CharSet := ⟨without a.ranges b.ranges⟩

/-- What is in one of the sets and not in the other. -/
def symmDiff (a b : CharSet) : CharSet := (a.union b).diff (a.inter b)

/-- What is in any of the sets. -/
def unions (sets : List CharSet) : CharSet := ofRanges (sets.flatMap (·.ranges))

/-! ## §4. Sets written as text. -/

/-- Reads a number in base 16, after digits that gave `value`. -/
def readHex (value : Nat) : List Char → Nat
  | [] => value
  | c :: rest => readHex (value * 16 + (Numeral.hexDigit? c).getD 0) rest

/-- The pieces of a text that stand between blanks and ends of lines; `current`
holds the piece being read, last character first. -/
def pieces (current : List Char) : List Char → List (List Char)
  | [] => if current.isEmpty then [] else [current.reverse]
  | c :: rest =>
    if c.isWhitespace then
      if current.isEmpty then pieces [] rest else current.reverse :: pieces [] rest
    else pieces (c :: current) rest

/-- The range that `first-last` or a single code point spells, in base 16. -/
def readRange (piece : List Char) : Range :=
  let first := piece.takeWhile (· != '-')
  let last := (piece.dropWhile (· != '-')).drop 1
  ⟨readHex 0 first, readHex 0 (if last.isEmpty then first else last)⟩

/-- The set that a table of ranges spells. -/
def ofTable (table : String) : CharSet := ofRanges ((pieces [] table.toList).map readRange)

end CharSet

end RuleScript.Unicode
