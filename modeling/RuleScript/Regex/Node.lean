/-
  RuleScript.Regex.Node
  ─────────────────────
  **Patterns as trees.**

  A pattern is made of character sets, assertions about the place between two
  characters, groups that record what they match, and the three ways to combine
  patterns.  All flags are already spent: case folding has gone into the sets,
  and the kind of line end into the assertions.

  Patterns are built with `ofSet`, `sequence`, `choice` and `repetition`, which
  keep them in one form.  Neighbouring characters make one text, sequences stand
  in no sequence and choices in no choice, and a choice between single characters
  is a set.  A beginning that all alternatives share is taken out and matched
  once (`choice`), so that two spellings of one beginning have to give one tree.
-/
import RuleScript.Unicode.Property

namespace RuleScript.Regex

open RuleScript.Unicode (CharSet)

/-! ## §1. Assertions. -/

/-- What an assertion about words asks of a place. -/
inductive WordEdge where
  | boundary
  | noBoundary
  | start
  | finish
  | startHalf
  | finishHalf
  deriving Repr, DecidableEq

/-- An assertion about the place between two characters. -/
inductive Look where
  | textStart
  | textEnd
  | lineStart
  | lineEnd
  /-- Lines end with a carriage return, a line feed, or the two in this order. -/
  | crlfLineStart
  | crlfLineEnd
  | word (edge : WordEdge) (unicode : Bool)
  deriving Repr, DecidableEq

/-- The letters, digits and the underscore of ASCII. -/
def asciiWord : CharSet :=
  CharSet.unions [.between '0' '9', .between 'A' 'Z', .single '_'.toNat, .between 'a' 'z']

/-- The characters that words are made of in a pattern. -/
def wordChar : CharSet := Unicode.wordChar .unicode16

/-- Whether a word is written at one side of a place. -/
def isWordAt (unicode : Bool) (c : Option Char) : Bool :=
  c.any (if unicode then wordChar.contains else asciiWord.contains)

/-- The edge stands between a word character or none (`before`) and the same (`after`). -/
def WordEdge.holds (edge : WordEdge) (before after : Bool) : Bool :=
  match edge with
  | .boundary => before != after
  | .noBoundary => before == after
  | .start => !before && after
  | .finish => before && !after
  | .startHalf => !before
  | .finishHalf => !after

/-- The assertion holds between the characters `before` and `after`; `none`
stands for the start and the end of the text. -/
def Look.holds (look : Look) (before after : Option Char) : Bool :=
  match look with
  | .textStart => before.isNone
  | .textEnd => after.isNone
  | .lineStart => before.all (· == '\n')
  | .lineEnd => after.all (· == '\n')
  | .crlfLineStart =>
    before.all (· == '\n') || (before == some '\r' && after != some '\n')
  | .crlfLineEnd =>
    after.all (· == '\r') || (after == some '\n' && before != some '\r')
  | .word edge unicode => edge.holds (isWordAt unicode before) (isWordAt unicode after)

/-! ## §2. Patterns. -/

/-- A pattern. -/
inductive Node where
  | empty
  /-- The characters one after the other. -/
  | text (s : List Char)
  /-- Any character of a set; `wide` says that it was written with Unicode on. -/
  | chars (set : CharSet) (wide : Bool)
  | look (assertion : Look)
  /-- Records what `body` matches under a number. -/
  | group (index : Nat) (body : Node)
  | concat (first second : Node)
  /-- `first` is preferred. -/
  | alternate (first second : Node)
  /-- `greedy` repetitions prefer to go on, the others prefer to stop. -/
  | repeated (body : Node) (least : Nat) (most : Option Nat) (greedy : Bool)
  deriving Repr, DecidableEq

namespace Node

/-- The pattern may match without taking a character, assertions aside. -/
def mayBeEmpty : Node → Bool
  | .empty => true
  | .text s => s.isEmpty
  | .chars _ _ => false
  | .look _ => true
  | .group _ body => body.mayBeEmpty
  | .concat first second => first.mayBeEmpty && second.mayBeEmpty
  | .alternate first second => first.mayBeEmpty || second.mayBeEmpty
  | .repeated body least _ _ => least == 0 || body.mayBeEmpty

/-- The pattern never takes a character. -/
def takesNothing : Node → Bool
  | .empty => true
  | .text s => s.isEmpty
  | .chars _ _ => false
  | .look _ => true
  | .group _ body => body.takesNothing
  | .concat first second => first.takesNothing && second.takesNothing
  | .alternate first second => first.takesNothing && second.takesNothing
  | .repeated body _ most _ => most.isSome && body.takesNothing

/-! ## §3. Sets. -/

/-- The pattern of a set; a set of one character is a text. -/
def ofSet (set : CharSet) (wide : Bool) : Node :=
  match set.ranges with
  | [] => .chars .empty false
  | [r] => if r.first = r.last then .text [Char.ofNat r.first] else .chars set wide
  | _ => .chars set wide

/-! ## §4. Sequences. -/

/-- The parts of a sequence. -/
def parts : Node → List Node
  | .empty => []
  | .concat first second => first :: second.parts
  | node => [node]

/-- Puts a part in front of others; two texts become one. -/
def joinText (node : Node) (rest : List Node) : List Node :=
  match node, rest with
  | .text s, .text more :: rest => .text (s ++ more) :: rest
  | node, rest => node :: rest

/-- The parts in a row, as they are. -/
def row : List Node → Node
  | [] => .empty
  | [node] => node
  | node :: rest => .concat node (row rest)

/-- The patterns one after the other. -/
def sequence (nodes : List Node) : Node := row ((nodes.flatMap parts).foldr joinText [])

/-! ## §5. Choices. -/

/-- The alternatives of a choice. -/
def alternatives : Node → List Node
  | .alternate first second => first :: second.alternatives
  | node => [node]

/-- The alternatives in order of preference, as they are. -/
def ranked : List Node → Node
  | [] => .chars .empty false
  | [node] => node
  | node :: rest => .alternate node (ranked rest)

/-- The character that is all of the pattern. -/
def char? : Node → Option Char
  | .text [c] => some c
  | _ => none

/-- The set that is all of the pattern. -/
def set? : Node → Option CharSet
  | .chars set _ => some set
  | _ => none

/-- A choice between characters or between sets is one set, for which preference
does not matter. -/
def oneSet? (nodes : List Node) : Option Node :=
  let single (c : Char) : CharSet := .single c.toNat
  let sets := (nodes.mapM fun node => (char? node).map single).or (nodes.mapM set?)
  sets.map fun sets => ofSet (.unions sets) true

/-- Any of the patterns, earlier ones preferred; no beginning is taken out. -/
def gather (nodes : List Node) : Node :=
  let nodes := nodes.flatMap alternatives
  match nodes with
  | [node] => node
  | nodes => (oneSet? nodes).getD (ranked nodes)

/-- The pattern has more than one part. -/
def isSequence : Node → Bool
  | .concat _ _ => true
  | _ => false

/-- What two lists have in common at their start. -/
def sharedStart : List Node → List Node → List Node
  | a :: as, b :: bs => if a = b then a :: sharedStart as bs else []
  | _, _ => []

/-- The parts that all the patterns start with.  A pattern of a single part shares
none, not even when it is that part. -/
def sharedParts : List Node → List Node
  | [] => []
  | node :: rest =>
    if (node :: rest).all isSequence then
      rest.foldl (fun shared other => sharedStart shared other.parts) node.parts
    else []

/-- Any of the patterns, earlier ones preferred.  The parts that all of them start
with are matched once and before the choice, so that how much they take is settled
first: the choice is made at the place that they prefer, and only if all of it
fails there do they try another. -/
def choice (nodes : List Node) : Node :=
  let nodes := nodes.flatMap alternatives
  match nodes with
  | [node] => node
  | nodes =>
    match sharedParts nodes with
    | [] => gather nodes
    | shared =>
      sequence (shared ++ [gather (nodes.map fun node => row (node.parts.drop shared.length))])

/-! ## §6. Repetitions. -/

/-- The pattern again and again.  What never takes a character need not be tried
more than once. -/
def repetition (body : Node) (least : Nat) (most : Option Nat) (greedy : Bool) : Node :=
  let least := if body.takesNothing then min least 1 else least
  let most := if body.takesNothing then some ((most.map (min · 1)).getD 1) else most
  if most = some 0 then .empty
  else if least = 1 ∧ most = some 1 then body
  else .repeated body least most greedy

end Node

end RuleScript.Regex
