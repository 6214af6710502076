/-
  RuleScript.Regex.Escape
  ───────────────────────
  **The pieces of a pattern that are written with a backslash.**

  Every reader here takes the text after the part that it has recognised, and
  returns what it read and what is left; `none` says that the pattern is not
  valid.
-/
import RuleScript.Regex.Node
import RuleScript.Unicode.CaseFold

namespace RuleScript.Regex

open RuleScript.Unicode (CharSet Category)

/-! ## §1. Flags. -/

/-- The flags in force at a place of the pattern. -/
structure Flags where
  caseless : Bool := false
  multiLine : Bool := false
  dotAll : Bool := false
  swapGreed : Bool := false
  crlf : Bool := false
  ignoreBlanks : Bool := false
  unicode : Bool := true
  deriving Repr, DecidableEq

/-- Skips blank characters, and comments from `#` to the end of the line. -/
def skipBlanks (inComment : Bool) : List Char → List Char
  | [] => []
  | c :: rest =>
    if inComment then skipBlanks (c != '\n') rest
    else if Unicode.whiteSpace.contains c then skipBlanks false rest
    else if c = '#' then skipBlanks true rest
    else c :: rest

/-- Skips what the flags say has no meaning. -/
def Flags.skip (flags : Flags) (s : List Char) : List Char :=
  if flags.ignoreBlanks then skipBlanks false s else s

/-- The set, closed under case where the flags ask for it. -/
def Flags.fold (flags : Flags) (set : CharSet) : CharSet :=
  if !flags.caseless then set
  else if flags.unicode then set.foldClosure
  else set.asciiFoldClosure

/-- Negates a set where asked to.  With Unicode off the complement would hold
parts of characters, so there it is refused. -/
def Flags.negate? (flags : Flags) (negated : Bool) (set : CharSet) : Option CharSet :=
  if !negated then some set
  else if flags.unicode then some set.complement
  else none

/-! ## §2. What an escape stands for. -/

/-- What an escape stands for. -/
inductive Escape where
  /-- One character; `byte` says that it was written as two digits in base 16. -/
  | literal (c : Char) (byte : Bool)
  | set (set : CharSet)
  | look (look : Look)
  deriving Repr, DecidableEq

/-- The characters that have a meaning of their own somewhere in a pattern. -/
def isMeta (c : Char) : Bool := "\\.+*?()|[]\x7b\x7d^$#&-~".toList.contains c

/-- The character stands for itself after a backslash. -/
def isEscapable (c : Char) : Bool :=
  isMeta c || (c.toNat < 0x80 && !c.isAlphanum && c != '<' && c != '>')

/-! ## §3. Characters by number. -/

/-- The character is a digit in base 16. -/
def isHex (c : Char) : Bool := (Numeral.hexDigit? c).isSome

/-- The character with the given number. -/
def charOf? (digits : List Char) : Option Char :=
  let code := CharSet.readHex 0 digits
  if code.isValidChar then some (Char.ofNat code) else none

/-- Exactly `count` digits; `digits` are those already read, last one first. -/
def readFixedHex (flags : Flags) : (count : Nat) → (digits : List Char) → List Char →
    Option (List Char × List Char)
  | 0, digits, s => some (digits.reverse, s)
  | count + 1, digits, s =>
    match s with
    | [] => none
    | c :: rest =>
      if isHex c then readFixedHex flags count (c :: digits) (flags.skip rest) else none

/-- Digits up to a closing brace. -/
def readBracedHex (flags : Flags) : (fuel : Nat) → (digits : List Char) → List Char →
    Option (List Char × List Char)
  | 0, _, _ => none
  | fuel + 1, digits, s =>
    match s with
    | [] => none
    | '\x7d' :: rest => some (digits.reverse, flags.skip rest)
    | c :: rest =>
      if isHex c then readBracedHex flags fuel (c :: digits) (flags.skip rest) else none

/-- A character by its number, after `\x`, `\u` or `\U`: `count` digits, or any
number of them in braces. -/
def readHexEscape (flags : Flags) (count : Nat) (s : List Char) :
    Option (Escape × List Char) :=
  match flags.skip s with
  | '\x7b' :: rest => do
    let (digits, rest) ← readBracedHex flags (rest.length + 1) [] (flags.skip rest)
    if digits.isEmpty then none
    else return (.literal (← charOf? digits) false, rest)
  | s => do
    let (digits, rest) ← readFixedHex flags count [] s
    return (.literal (← charOf? digits) (count == 2), rest)

/-! ## §4. Sets by name. -/

/-- The decimal digits in a pattern. -/
def decimalDigit : CharSet := Unicode.decimalDigit .unicode16

/-- The sets of digits, blanks and word characters. -/
def classSet? (unicode : Bool) (c : Char) : Option CharSet :=
  match c, unicode with
  | 'd', true => some decimalDigit
  | 's', true => some Unicode.whiteSpace
  | 'w', true => some wordChar
  | 'd', false => some (.between '0' '9')
  | 's', false => some (.ofTable "9-D 20")
  | 'w', false => some asciiWord
  | _, _ => none

/-- Drops what does not count in the name of a property: case, separators, and
an `is` in front, which counts in `isc` alone. -/
def normalName (name : List Char) : List Char :=
  let lower := name.map Char.toLower
  let hasIs := lower.take 2 == ['i', 's']
  let counts (c : Char) : Bool := c != ' ' && c != '_' && c != '-' && c.toNat < 0x80
  let kept := (if hasIs then lower.drop 2 else lower).filter counts
  if hasIs && kept == ['c'] then "isc".toList else kept

/-- The categories that one name stands for; surrogates are no characters, and
their category cannot be asked for. -/
def categories? (name : List Char) : Option (List Category) :=
  let isOne (names : List String) := names.any (·.toList == name)
  if isOne ["l", "letter"] then some [.Lu, .Ll, .Lt, .Lm, .Lo]
  else if isOne ["lc", "casedletter"] then some [.Lu, .Ll, .Lt]
  else if isOne ["m", "mark", "combiningmark"] then some [.Mn, .Mc, .Me]
  else if isOne ["n", "number"] then some [.Nd, .Nl, .No]
  else if isOne ["p", "punct", "punctuation"] then some [.Pc, .Pd, .Ps, .Pe, .Pi, .Pf, .Po]
  else if isOne ["s", "symbol"] then some [.Sm, .Sc, .Sk, .So]
  else if isOne ["z", "separator"] then some [.Zs, .Zl, .Zp]
  else if isOne ["c", "other"] then some [.Cc, .Cf, .Cs, .Co, .Cn]
  else if isOne ["digit"] then some [.Nd]
  else if isOne ["cntrl"] then some [.Cc]
  else if isOne ["cs", "surrogate"] then none
  else (Category.named? name).map ([·])

/-- The set that the general category `name` stands for. -/
def categorySet? (name : List Char) : Option CharSet :=
  if name = "any".toList then some CharSet.empty.complement
  else if name = "ascii".toList then some (.range 0 0x7F)
  else if name = "assigned".toList then some (Category.setOf .unicode16 [.Cn]).complement
  else (categories? name).map (Category.setOf .unicode16)

/-- The set that a property `name` stands for. -/
def propertySet? (name : List Char) : Option CharSet :=
  if ["alpha", "alphabetic"].any (·.toList == name) then
    some (Unicode.alphabetic .unicode16)
  else if ["space", "wspace", "whitespace"].any (·.toList == name) then
    some Unicode.whiteSpace
  else categorySet? name

/-- The set that a property and its value stand for. -/
def valueSet? (property value : List Char) : Option CharSet :=
  if ["gc", "generalcategory"].any (·.toList == normalName property) then
    categorySet? (normalName value)
  else none

/-- The set that the text between the braces of a property stands for. -/
def bracedSet? (content : List Char) : Option CharSet :=
  let parts (mark : Char) := (content.takeWhile (· != mark), (content.dropWhile (· != mark)).drop 1)
  let equal := parts '='
  let colon := parts ':'
  if content.contains '=' && equal.1.getLast? == some '!' then
    (valueSet? equal.1.dropLast equal.2).map CharSet.complement
  else if content.contains ':' then valueSet? colon.1 colon.2
  else if content.contains '=' then valueSet? equal.1 equal.2
  else propertySet? (normalName content)

/-- The text up to a closing brace. -/
def readBraced (flags : Flags) : (fuel : Nat) → (content : List Char) → List Char →
    Option (List Char × List Char)
  | 0, _, _ => none
  | fuel + 1, content, s =>
    match s with
    | [] => none
    | '\x7d' :: rest => some (content.reverse, rest)
    | c :: rest => readBraced flags fuel (c :: content) (flags.skip rest)

/-- A set by the one letter of its property, or by what stands in braces. -/
def readPropertySet (flags : Flags) : List Char → Option (CharSet × List Char)
  | [] => none
  | c :: rest =>
    if c = '\\' then none
    else if c = '\x7b' then do
      let (content, rest) ← readBraced flags (rest.length + 1) [] (flags.skip rest)
      return (← bracedSet? content, rest)
    else do
      return (← propertySet? (normalName [c]), flags.skip rest)

/-- A set by its property, after `\p` or `\P`. -/
def readProperty (flags : Flags) (negated : Bool) (s : List Char) :
    Option (Escape × List Char) := do
  let (set, rest) ← readPropertySet flags (flags.skip s)
  if !flags.unicode then none
  else return (.set (← flags.negate? negated (flags.fold set)), rest)

/-! ## §5. Assertions. -/

/-- The name of a word edge in braces, and what follows the closing brace. -/
def readEdgeName (flags : Flags) : (fuel : Nat) → (name : List Char) → List Char →
    Option (List Char × List Char)
  | 0, _, _ => none
  | fuel + 1, name, s =>
    match s with
    | [] => none
    | '\x7d' :: rest => some (name.reverse, rest)
    | c :: rest =>
      if c.isAlpha || c = '-' then readEdgeName flags fuel (c :: name) (flags.skip rest)
      else none

/-- The word edge with the given name. -/
def edgeNamed? (name : List Char) : Option WordEdge :=
  if name = "start".toList then some .start
  else if name = "end".toList then some .finish
  else if name = "start-half".toList then some .startHalf
  else if name = "end-half".toList then some .finishHalf
  else none

/-- A word edge, after `\b`.  A brace starts a name only if a letter or a hyphen
follows it; otherwise it starts a count. -/
def readEdge (flags : Flags) (s : List Char) : Option (WordEdge × List Char) :=
  match s with
  | '\x7b' :: rest =>
    let inner := flags.skip rest
    match inner with
    | [] => none
    | c :: _ =>
      if c.isAlpha || c = '-' then do
        let (name, rest) ← readEdgeName flags (inner.length + 1) [] inner
        return (← edgeNamed? name, rest)
      else some (.boundary, s)
  | s => some (.boundary, s)

/-! ## §6. All escapes. -/

/-- What follows a backslash. -/
def readEscape (flags : Flags) : List Char → Option (Escape × List Char)
  | [] => none
  | c :: rest =>
    let one (c : Char) : Option (Escape × List Char) := some (.literal c false, rest)
    let look (look : Look) : Option (Escape × List Char) := some (.look look, rest)
    if isEscapable c then one c
    else
      match c with
      | 'x' => readHexEscape flags 2 rest
      | 'u' => readHexEscape flags 4 rest
      | 'U' => readHexEscape flags 8 rest
      | 'p' => readProperty flags false rest
      | 'P' => readProperty flags true rest
      | 'a' => one '\x07'
      | 'f' => one '\x0C'
      | 't' => one '\t'
      | 'n' => one '\n'
      | 'r' => one '\r'
      | 'v' => one '\x0B'
      | 'A' => look .textStart
      | 'z' => look .textEnd
      | 'b' => do
        let (edge, rest) ← readEdge flags rest
        return (.look (.word edge flags.unicode), rest)
      | 'B' => look (.word .noBoundary flags.unicode)
      | '<' => look (.word .start flags.unicode)
      | '>' => look (.word .finish flags.unicode)
      | _ => do
        let set ← classSet? flags.unicode c.toLower
        return (.set (← flags.negate? c.isUpper set), rest)

end RuleScript.Regex
