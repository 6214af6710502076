/-
  RuleScript.Regex.Pattern
  ────────────────────────
  **Reading a pattern.**

  The pattern is read from left to right with the groups that are still open on
  a stack.  Flags that are set inside a group hold up to its end, also across
  its alternatives.  A text that is not a pattern gives `none`, and so does one
  that nests its constructs more than `maxDepth` deep.
-/
import RuleScript.Regex.Bracket
import RuleScript.Text.Numeral

namespace RuleScript.Regex

/-! ## §1. What has been read. -/

/-- A pattern, how many of its groups record what they match, and the numbers of
those that have a name. -/
structure Pattern where
  node : Node
  groups : Nat
  names : List (List Char × Nat)
  deriving Repr, DecidableEq

/-- How deep groups, repetitions, sequences, choices and brackets may be nested. -/
def maxDepth : Nat := 250

/-- A part of a pattern.  One without a node has set flags; there is nothing in it
to repeat.  `depth` says how deep constructs are nested in the part. -/
structure Item where
  node : Option Node
  depth : Nat
  deriving Repr, DecidableEq

/-- How deep constructs are nested in a row of parts: the row is one itself where
it has two parts or more. -/
def Item.rowDepth : List Item → Nat
  | [] => 0
  | [item] => item.depth
  | items => items.foldl (fun depth item => max depth item.depth) 0 + 1

/-- A group that is not closed yet: its number, and what stood outside it. -/
structure OpenGroup where
  index : Option Nat
  flags : Flags
  choices : List Item
  items : List Item
  deriving Repr, DecidableEq

/-- What has been read: the alternatives of the innermost open group and the
items of the one being read, both last one first. -/
structure Partial where
  flags : Flags
  outer : List OpenGroup
  choices : List Item
  items : List Item
  groups : Nat
  names : List (List Char × Nat)
  deriving Repr, DecidableEq

namespace Partial

/-- Nothing has been read. -/
def start : Partial :=
  { flags := {}, outer := [], choices := [], items := [], groups := 0, names := [] }

/-- Adds an item. -/
def push (p : Partial) (node : Node) (depth : Nat := 0) : Partial :=
  { p with items := ⟨some node, depth⟩ :: p.items }

/-- Goes on with other flags. -/
def setFlags (p : Partial) (flags : Flags) : Partial :=
  { p with flags := flags, items := ⟨none, 0⟩ :: p.items }

/-- The alternative being read. -/
def alternative (p : Partial) : Item :=
  ⟨some (Node.sequence (p.items.reverse.filterMap (·.node))), Item.rowDepth p.items⟩

/-- All alternatives of the innermost open group. -/
def body (p : Partial) : Node × Nat :=
  let choices := p.alternative :: p.choices
  (Node.choice (choices.reverse.filterMap (·.node)), Item.rowDepth choices)

/-- Goes on to the next alternative. -/
def nextChoice (p : Partial) : Partial :=
  { p with choices := p.alternative :: p.choices, items := [] }

/-- Opens a group; inside it the flags are `flags`. -/
def openGroup (p : Partial) (index : Option Nat) (flags : Flags) : Partial :=
  { p with
    flags := flags, choices := [], items := [],
    outer := ⟨index, p.flags, p.choices, p.items⟩ :: p.outer }

/-- Opens a group that records what it matches. -/
def openRecording (p : Partial) : Partial :=
  ({ p with groups := p.groups + 1 } : Partial).openGroup (some (p.groups + 1)) p.flags

/-- Closes the innermost group. -/
def closeGroup? (p : Partial) : Option Partial :=
  match p.outer with
  | [] => none
  | group :: outer =>
    let (body, depth) := p.body
    let node := group.index.elim body fun index => .group index body
    some { p with
      flags := group.flags, choices := group.choices,
      items := ⟨some node, depth + 1⟩ :: group.items, outer := outer }

/-- Repeats the last item. -/
def repeatLast? (p : Partial) (least : Nat) (most : Option Nat) (greedy : Bool) :
    Option Partial :=
  match p.items with
  | ⟨some node, depth⟩ :: items =>
    let node := node.repetition least most (greedy != p.flags.swapGreed)
    some { p with items := ⟨some node, depth + 1⟩ :: items }
  | _ => none

/-- The whole pattern, once all groups are closed. -/
def close? (p : Partial) : Option Pattern :=
  let (node, depth) := p.body
  if p.outer.isEmpty ∧ depth ≤ maxDepth then some ⟨node, p.groups, p.names⟩ else none

end Partial

/-! ## §2. Groups. -/

/-- Sets the flag with the given letter. -/
def Flags.set? (flags : Flags) (letter : Char) (value : Bool) : Option Flags :=
  match letter with
  | 'i' => some { flags with caseless := value }
  | 'm' => some { flags with multiLine := value }
  | 's' => some { flags with dotAll := value }
  | 'U' => some { flags with swapGreed := value }
  | 'R' => some { flags with crlf := value }
  | 'x' => some { flags with ignoreBlanks := value }
  | 'u' => some { flags with unicode := value }
  | _ => none

/-- Reads flag letters up to `:` or `)`.  `seen` holds the letters read so far; a
letter counts once, and so does the hyphen, which needs a letter after it. -/
def readFlags (flags : Flags) (seen : List Char) : List Char →
    Option (Flags × Char × Bool × List Char)
  | [] => none
  | c :: rest =>
    if c = ':' ∨ c = ')' then
      if seen.head? = some '-' then none else some (flags, c, seen.isEmpty, rest)
    else if seen.contains c then none
    else if c = '-' then readFlags flags (c :: seen) rest
    else do
      let flags ← flags.set? c (!seen.contains '-')
      readFlags flags (c :: seen) rest

/-- The characters that the name of a group may start with, the underscore aside. -/
def nameStart : Unicode.CharSet := Unicode.alphabetic .unicode17

/-- The letters and numbers in the name of a group. -/
def nameLetter : Unicode.CharSet := Unicode.alphanumeric .unicode17

/-- The character may stand in the name of a group. -/
def isNameChar (first : Bool) (c : Char) : Bool :=
  if first then c == '_' || nameStart.contains c
  else c == '_' || c == '.' || c == '[' || c == ']' || nameLetter.contains c

/-- The name of a group and what follows its `>`. -/
def readName? (s : List Char) : Option (List Char × List Char) :=
  let name := s.takeWhile (· != '>')
  match s.dropWhile (· != '>'), name with
  | _ :: rest, c :: more =>
    if isNameChar true c && more.all (isNameChar false) then some (name, rest) else none
  | _, _ => none

/-- The start of a group, after its parenthesis. -/
def readGroup (p : Partial) (s : List Char) : Option (Partial × List Char) :=
  let named (s : List Char) : Option (Partial × List Char) := do
    let (name, rest) ← readName? s
    if (p.names.lookup name).isSome then none
    else
      let p := p.openRecording
      return ({ p with names := (name, p.groups) :: p.names }, rest)
  match p.flags.skip s with
  | '?' :: '=' :: _ => none
  | '?' :: '!' :: _ => none
  | '?' :: '<' :: '=' :: _ => none
  | '?' :: '<' :: '!' :: _ => none
  | '?' :: 'P' :: '<' :: rest => named rest
  | '?' :: '<' :: rest => named rest
  | '?' :: rest => do
    let (flags, stop, noFlag, rest) ← readFlags p.flags [] rest
    if stop = ':' then return (p.openGroup none flags, rest)
    else if noFlag then none
    else return (p.setFlags flags, rest)
  | s => some (p.openRecording, s)

/-! ## §3. Repetitions. -/

/-- The digits of a count; blanks may stand around them. -/
def readCountDigits (flags : Flags) : (fuel : Nat) → (digits : List Char) → List Char →
    List Char × List Char
  | 0, digits, s => (digits.reverse, s)
  | fuel + 1, digits, s =>
    match s with
    | [] => (digits.reverse, [])
    | c :: rest =>
      if c.isDigit then readCountDigits flags fuel (c :: digits) (flags.skip rest)
      else (digits.reverse, s)

/-- A count. -/
def readCount (flags : Flags) (s : List Char) : Option (Nat × List Char) := do
  let blank (c : Char) : Bool := Unicode.whiteSpace.contains c
  let s := s.dropWhile blank
  let (digits, rest) := readCountDigits flags (s.length + 1) [] s
  let count ← Numeral.unsigned? Numeral.max32 digits
  let after := rest.dropWhile blank
  return (count, if rest.length = after.length then rest else flags.skip after)

/-- The counts of a repetition, after its brace, and what follows them. -/
def readCounts (flags : Flags) (s : List Char) : Option (Nat × Option Nat × List Char) := do
  let (least, s) ← readCount flags (flags.skip s)
  match s with
  | ',' :: rest =>
    match flags.skip rest with
    | '\x7d' :: rest => return (least, none, rest)
    | s => do
      let (most, s) ← readCount flags s
      match s with
      | '\x7d' :: rest => if least ≤ most then return (least, some most, rest) else none
      | _ => none
  | '\x7d' :: rest => return (least, some least, rest)
  | _ => none

/-- Whether a repetition is greedy: a question mark makes it not so. -/
def readGreed : List Char → Bool × List Char
  | '?' :: rest => (false, rest)
  | s => (true, s)

/-! ## §4. The whole pattern. -/

/-- The pattern of one character. -/
def literalNode? (flags : Flags) (c : Char) (byte : Bool) : Option Node :=
  if !flags.unicode && byte && 0x80 ≤ c.toNat then none
  else if !flags.unicode && 0x80 ≤ c.toNat then some (.text [c])
  else some (.ofSet (flags.fold (.single c.toNat)) flags.unicode)

/-- The pattern of an escape. -/
def escapeNode? (flags : Flags) : Escape → Option Node
  | .literal c byte => literalNode? flags c byte
  | .set set => some (.ofSet set flags.unicode)
  | .look look => some (.look look)

/-- The pattern of a dot. -/
def dotNode? (flags : Flags) : Option Node :=
  let lineEnds : Unicode.CharSet :=
    if flags.dotAll then .empty
    else if flags.crlf then .ofTable "A D"
    else .ofTable "A"
  (flags.negate? true lineEnds).map fun set => .ofSet set true

/-- The assertion of `^`. -/
def lineStart (flags : Flags) : Look :=
  if !flags.multiLine then .textStart else if flags.crlf then .crlfLineStart else .lineStart

/-- The assertion of `$`. -/
def lineEnd (flags : Flags) : Look :=
  if !flags.multiLine then .textEnd else if flags.crlf then .crlfLineEnd else .lineEnd

/-- Reads the item that starts with `c`. -/
def readOne (p : Partial) (c : Char) (rest : List Char) : Option (Partial × List Char) :=
  let uncounted (least : Nat) (most : Option Nat) : Option (Partial × List Char) := do
    let (greedy, rest) := readGreed rest
    return (← p.repeatLast? least most greedy, rest)
  match c with
  | '(' => readGroup p rest
  | ')' => do return (← p.closeGroup?, rest)
  | '|' => some (p.nextChoice, rest)
  | '[' => do
    let (written, rest) ← readBracket p.flags rest
    return (p.push (.ofSet written.set p.flags.unicode) written.depth, rest)
  | '?' => uncounted 0 (some 1)
  | '*' => uncounted 0 none
  | '+' => uncounted 1 none
  | '\x7b' => do
    let (least, most, rest) ← readCounts p.flags rest
    let (greedy, rest) := readGreed (p.flags.skip rest)
    return (← p.repeatLast? least most greedy, rest)
  | '\\' => do
    let (escape, rest) ← readEscape p.flags rest
    return (p.push (← escapeNode? p.flags escape), rest)
  | '.' => do return (p.push (← dotNode? p.flags), rest)
  | '^' => some (p.push (.look (lineStart p.flags)), rest)
  | '$' => some (p.push (.look (lineEnd p.flags)), rest)
  | c => do return (p.push (← literalNode? p.flags c false), rest)

/-- Reads on up to the end of the pattern. -/
def readAll : (fuel : Nat) → Partial → List Char → Option Pattern
  | 0, _, _ => none
  | fuel + 1, p, s =>
    match p.flags.skip s with
    | [] => p.close?
    | c :: rest => do
      let (p, rest) ← readOne p c rest
      readAll fuel p rest

/-- The pattern that a text spells. -/
def Pattern.ofText? (s : List Char) : Option Pattern := readAll (s.length + 1) .start s

end RuleScript.Regex
