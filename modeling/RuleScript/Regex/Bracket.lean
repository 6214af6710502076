/-
  RuleScript.Regex.Bracket
  ────────────────────────
  **Sets of characters in brackets.**

  A bracket holds characters, ranges, named classes and further brackets, whose
  union it stands for, and three operators between such unions: `&&`, `--` and
  `~~`.  The operators bind alike, from the left.  Case is folded before an
  operator is applied and before a bracket is negated.
-/
import RuleScript.Regex.Escape

namespace RuleScript.Regex

open RuleScript.Unicode (CharSet)

/-! ## §1. Brackets that are being read. -/

/-- An operator between two sets. -/
inductive SetOp where
  | inter
  | diff
  | symmDiff
  deriving Repr, DecidableEq

/-- What an operator makes of two sets. -/
def SetOp.apply : SetOp → CharSet → CharSet → CharSet
  | .inter => CharSet.inter
  | .diff => CharSet.diff
  | .symmDiff => CharSet.symmDiff

/-- A set, and how deep the brackets, unions and operators are nested that it is
written with. -/
structure Written where
  set : CharSet
  depth : Nat
  deriving Repr, DecidableEq

/-- A union that is being read; `depth` is that of its deepest item. -/
structure ItemUnion where
  set : CharSet
  count : Nat
  depth : Nat
  deriving Repr, DecidableEq

namespace ItemUnion

/-- The union of no items. -/
def empty : ItemUnion := ⟨.empty, 0, 0⟩

/-- Puts a set into the union. -/
def add (union : ItemUnion) (item : Written) : ItemUnion :=
  ⟨union.set.union item.set, union.count + 1, max union.depth item.depth⟩

/-- The union as it is written: two items or more are nested in it. -/
def written (union : ItemUnion) : Written :=
  ⟨union.set, if union.count < 2 then union.depth else union.depth + 1⟩

end ItemUnion

/-- A bracket that is not closed yet: the operator that waits for its right side,
with its left side, and the union read since. -/
structure OpenBracket where
  negated : Bool
  pending : Option (SetOp × Written)
  items : ItemUnion
  deriving Repr, DecidableEq

namespace OpenBracket

/-- Puts a set into the bracket. -/
def add (bracket : OpenBracket) (item : Written) : OpenBracket :=
  { bracket with items := bracket.items.add item }

/-- The set read so far, the waiting operator applied. -/
def value (bracket : OpenBracket) (flags : Flags) : Written :=
  let right := bracket.items.written
  match bracket.pending with
  | none => right
  | some (op, left) =>
    ⟨op.apply (flags.fold left.set) (flags.fold right.set), max left.depth right.depth + 1⟩

/-- Goes on to the right side of an operator. -/
def operate (bracket : OpenBracket) (flags : Flags) (op : SetOp) : OpenBracket :=
  ⟨bracket.negated, some (op, bracket.value flags), .empty⟩

/-- The set that the bracket stands for once it is closed. -/
def close? (bracket : OpenBracket) (flags : Flags) : Option Written :=
  let value := bracket.value flags
  (flags.negate? bracket.negated (flags.fold value.set)).map fun set => ⟨set, value.depth + 1⟩

end OpenBracket

/-! ## §2. Named classes. -/

/-- The sets with a name of their own, all within ASCII. -/
def namedClasses : List (List Char × CharSet) :=
  let entry (name table : String) := (name.toList, CharSet.ofTable table)
  [entry "alnum" "30-39 41-5A 61-7A", entry "alpha" "41-5A 61-7A", entry "ascii" "0-7F",
   entry "blank" "9 20", entry "cntrl" "0-1F 7F", entry "digit" "30-39",
   entry "graph" "21-7E", entry "lower" "61-7A", entry "print" "20-7E",
   entry "punct" "21-2F 3A-40 5B-60 7B-7E", entry "space" "9-D 20",
   entry "upper" "41-5A", entry "word" "30-39 41-5A 5F 61-7A",
   entry "xdigit" "30-39 41-46 61-66"]

/-- A named class, after its opening bracket: whether it is negated, its set,
and what is left. -/
def readNamedClass? : List Char → Option (Bool × CharSet × List Char)
  | ':' :: rest =>
    let negated := rest.head? == some '^'
    let rest := if negated then rest.drop 1 else rest
    match rest.dropWhile (· != ':') with
    | ':' :: ']' :: after =>
      (namedClasses.lookup (rest.takeWhile (· != ':'))).map fun set => (negated, set, after)
    | _ => none
  | _ => none

/-! ## §3. Items. -/

/-- One character or one escape. -/
def readItem (flags : Flags) : List Char → Option (Escape × List Char)
  | [] => none
  | '\\' :: rest => readEscape flags rest
  | c :: rest => some (.literal c false, rest)

/-- The character may stand in a bracket; with Unicode off it has to be ASCII. -/
def Flags.admits (flags : Flags) (c : Char) : Bool := flags.unicode || c.toNat < 0x80

/-- The set that an item stands for on its own. -/
def itemSet? (flags : Flags) : Escape → Option CharSet
  | .literal c _ => if flags.admits c then some (.single c.toNat) else none
  | .set set => some set
  | .look _ => none

/-- The set of a range, whose ends have to be characters in order. -/
def rangeSet? (flags : Flags) : Escape → Escape → Option CharSet
  | .literal first _, .literal last _ =>
    if first ≤ last ∧ flags.admits first ∧ flags.admits last then
      some (.between first last)
    else none
  | _, _ => none

/-- The next character that counts, seen from a hyphen.  One `#` is passed over
together with the blanks around it. -/
def peekAfter (flags : Flags) (rest : List Char) : Option Char :=
  if !flags.ignoreBlanks then rest.head?
  else
    let blank (c : Char) : Bool := Unicode.whiteSpace.contains c
    match rest.dropWhile blank with
    | '#' :: more => (more.dropWhile blank).head?.or rest.head?
    | s => s.head?.or rest.head?

/-- One item or one range.  A hyphen before a closing bracket, or before another
hyphen, makes no range. -/
def readRange (flags : Flags) (s : List Char) : Option (CharSet × List Char) := do
  let (first, s) ← readItem flags s
  match flags.skip s with
  | [] => none
  | c :: rest =>
    let next := peekAfter flags rest
    if c ≠ '-' ∨ next = some ']' ∨ next = some '-' then
      return (← itemSet? flags first, c :: rest)
    else
      let (last, s) ← readItem flags (flags.skip rest)
      return (← rangeSet? flags first last, s)

/-! ## §4. Brackets. -/

/-- Hyphens at the start of a bracket stand for themselves. -/
def readHyphens (flags : Flags) : (fuel : Nat) → ItemUnion → List Char → ItemUnion × List Char
  | 0, found, s => (found, s)
  | fuel + 1, found, s =>
    match s with
    | '-' :: rest => readHyphens flags fuel (found.add ⟨.single '-'.toNat, 0⟩) (flags.skip rest)
    | s => (found, s)

/-- The start of a bracket, after `[`: its negation, and the characters that have
no meaning of their own there. -/
def openBracket (flags : Flags) (s : List Char) : Option (OpenBracket × List Char) :=
  let s := flags.skip s
  let negated := s.head? == some '^'
  let s := if negated then flags.skip (s.drop 1) else s
  let (hyphens, s) := readHyphens flags (s.length + 1) .empty s
  let bracket : OpenBracket := ⟨negated, none, hyphens⟩
  match s with
  | [] => none
  | ']' :: rest =>
    if 0 < hyphens.count then some (bracket, s)
    else some (bracket.add ⟨.single ']'.toNat, 0⟩, flags.skip rest)
  | s => some (bracket, s)

/-- Reads on in a bracket, inside the brackets `outer`, up to the end of the
outermost one. -/
def readBracketRest (flags : Flags) : (fuel : Nat) → OpenBracket → (outer : List OpenBracket) →
    List Char → Option (Written × List Char)
  | 0, _, _, _ => none
  | fuel + 1, bracket, outer, s =>
    match flags.skip s with
    | [] => none
    | '[' :: rest =>
      match readNamedClass? rest with
      | some (negated, set, rest) => do
        let set ← flags.negate? negated (flags.fold set)
        readBracketRest flags fuel (bracket.add ⟨set, 0⟩) outer rest
      | none => do
        let (inner, rest) ← openBracket flags rest
        readBracketRest flags fuel inner (bracket :: outer) rest
    | ']' :: rest => do
      let written ← bracket.close? flags
      match outer with
      | [] => return (written, rest)
      | parent :: outer => readBracketRest flags fuel (parent.add written) outer rest
    | '&' :: '&' :: rest => readBracketRest flags fuel (bracket.operate flags .inter) outer rest
    | '-' :: '-' :: rest => readBracketRest flags fuel (bracket.operate flags .diff) outer rest
    | '~' :: '~' :: rest =>
      readBracketRest flags fuel (bracket.operate flags .symmDiff) outer rest
    | s => do
      let (set, rest) ← readRange flags s
      readBracketRest flags fuel (bracket.add ⟨set, 0⟩) outer rest

/-- A bracket, after its `[`. -/
def readBracket (flags : Flags) (s : List Char) : Option (Written × List Char) := do
  let (bracket, rest) ← openBracket flags s
  readBracketRest flags (rest.length + 1) bracket [] rest

end RuleScript.Regex
