/-
  RuleScript.Regex.Program
  ────────────────────────
  **Patterns as programs of a small machine.**

  A program is an array of instructions that name each other by index.  At a
  `split` the first way is preferred.  A pattern is compiled from its end: each
  part is given the index of what comes after it and returns the index where it
  starts itself.

  A repetition of something that may be empty is compiled as an optional
  "one or more".  With a plain loop the machine would reach the way out of the
  loop only before, never after, an empty turn, and would prefer the wrong match.
-/
import RuleScript.Regex.Node

namespace RuleScript.Regex

open RuleScript.Unicode (CharSet)

/-! ## §1. Instructions. -/

/-- An instruction; `next` is where the machine goes on. -/
inductive Instr where
  /-- Takes a character of the set. -/
  | chars (set : CharSet) (next : Nat)
  /-- Goes on if the assertion holds. -/
  | look (assertion : Look) (next : Nat)
  /-- Notes the position in a slot. -/
  | save (slot next : Nat)
  | split (preferred other : Nat)
  | accept
  deriving Repr, DecidableEq

/-- The instructions written so far. -/
abbrev Code := Array Instr

/-- A part of a program: where it starts, and all instructions so far. -/
structure Part where
  entry : Nat
  code : Code
  deriving Repr, DecidableEq

/-- Writes an instruction and starts with it. -/
def Code.append (code : Code) (instr : Instr) : Part := ⟨code.size, code.push instr⟩

/-- Writes a choice between two ways; a greedy one prefers `on`. -/
def Instr.choose (greedy : Bool) (on out : Nat) : Instr :=
  if greedy then .split on out else .split out on

/-! ## §2. Compilation. -/

/-- Writes a part `count` times, the copies one after the other. -/
def writeTimes (write : Nat → Code → Part) : (count : Nat) → (next : Nat) → Code → Part
  | 0, next, code => ⟨next, code⟩
  | count + 1, next, code =>
    let rest := writeTimes write count next code
    write rest.entry rest.code

/-- Writes a part at most `count` times; every copy may be left out together with
those after it. -/
def writeUpTo (write : Nat → Code → Part) (greedy : Bool) : (count : Nat) → (next : Nat) →
    Code → Part
  | 0, next, code => ⟨next, code⟩
  | count + 1, next, code =>
    let rest := writeUpTo write greedy count next code
    let copy := write rest.entry rest.code
    Code.append copy.code (.choose greedy copy.entry next)

/-- Writes a part with a way back to its start; `entry` is the part's own start. -/
def writeLoop (write : Nat → Code → Part) (greedy : Bool) (next : Nat) (code : Code) :
    Part × Nat :=
  let again := code.size
  -- The way back has to have an index before the part that leads to it is written.
  let body := write again (code.push .accept)
  (⟨body.entry, body.code.setIfInBounds again (.choose greedy body.entry next)⟩, again)

/-- Writes a part any number of times. -/
def writeStar (write : Nat → Code → Part) (mayBeEmpty greedy : Bool) (next : Nat)
    (code : Code) : Part :=
  let (loop, again) := writeLoop write greedy next code
  if mayBeEmpty then Code.append loop.code (.choose greedy loop.entry next)
  else ⟨again, loop.code⟩

/-- Writes the characters one after the other. -/
def writeText : List Char → (next : Nat) → Code → Part
  | [], next, code => ⟨next, code⟩
  | c :: rest, next, code =>
    let part := writeText rest next code
    Code.append part.code (.chars (.single c.toNat) part.entry)

/-- Writes a pattern before the instruction `next`. -/
def Node.write : Node → (next : Nat) → Code → Part
  | .empty, next, code => ⟨next, code⟩
  | .text s, next, code => writeText s next code
  | .chars set _, next, code => code.append (.chars set next)
  | .look assertion, next, code => code.append (.look assertion next)
  | .group index body, next, code =>
    let stop := Code.append code (.save (2 * index + 1) next)
    let part := body.write stop.entry stop.code
    Code.append part.code (.save (2 * index) part.entry)
  | .concat first second, next, code =>
    let part := second.write next code
    first.write part.entry part.code
  | .alternate first second, next, code =>
    let other := second.write next code
    let preferred := first.write next other.code
    Code.append preferred.code (.split preferred.entry other.entry)
  | .repeated body least most greedy, next, code =>
    match most, least with
    | some most, least =>
      let more := writeUpTo body.write greedy (most - least) next code
      writeTimes body.write least more.entry more.code
    | none, 0 => writeStar body.write body.mayBeEmpty greedy next code
    | none, least + 1 =>
      let loop := (writeLoop body.write greedy next code).1
      writeTimes body.write least loop.entry loop.code

/-- The program of a pattern: it notes the ends of the whole match in the first
two slots and accepts. -/
def Node.program (node : Node) : Part :=
  Node.write (.group 0 node) 0 #[.accept]

end RuleScript.Regex
