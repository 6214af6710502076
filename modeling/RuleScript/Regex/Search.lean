/-
  RuleScript.Regex.Search
  ───────────────────────
  **Finding the preferred leftmost match.**

  The machine runs all ways through a program side by side, in order of
  preference, one character at a time; a state that two ways reach at one place
  belongs to the preferred way.  The work is bounded by the size of the program
  times the length of the text.  Of all matches the one that starts first wins,
  and of those the one whose way is preferred.
-/
import RuleScript.Regex.Pattern
import RuleScript.Regex.Program

namespace RuleScript.Regex

/-! ## §1. Places in a text. -/

/-- A place in a text: the character before it, how many there are before it,
and those after it. -/
structure Place where
  before : Option Char
  pos : Nat
  rest : List Char
  deriving Repr, DecidableEq

/-- The start of a text. -/
def Place.start (text : List Char) : Place := ⟨none, 0, text⟩

/-- The place after `count` further characters. -/
def Place.forward (place : Place) : (count : Nat) → Place
  | 0 => place
  | count + 1 =>
    match place.rest with
    | [] => place
    | c :: rest => Place.forward ⟨some c, place.pos + 1, rest⟩ count

/-! ## §2. The machine. -/

/-- The noted positions. -/
abbrev Slots := Array (Option Nat)

/-- A way through the program: where it stands, and what it has noted. -/
structure Thread where
  state : Nat
  slots : Slots
  deriving Repr, DecidableEq

/-- The ways that stand at one place, in order of preference, and the states
that have been reached there. -/
structure Threads where
  ways : Array Thread
  seen : Array Bool
  deriving Repr, DecidableEq

/-- No way stands anywhere. -/
def Threads.empty (code : Code) : Threads := ⟨#[], Array.replicate code.size false⟩

/-- Follows the ways on `stack` up to the instructions that take a character or
accept.  Each state is entered once and puts at most two others on the stack. -/
def Threads.follow (code : Code) (place : Place) : (fuel : Nat) → (stack : List Thread) →
    Threads → Threads
  | 0, _, threads => threads
  | _ + 1, [], threads => threads
  | fuel + 1, thread :: stack, threads =>
    if threads.seen[thread.state]?.getD true then
      Threads.follow code place fuel stack threads
    else
      let seen := threads.seen.setIfInBounds thread.state true
      match code[thread.state]? with
      | some (.look assertion next) =>
        let stack :=
          if assertion.holds place.before place.rest.head? then { thread with state := next } :: stack
          else stack
        Threads.follow code place fuel stack { threads with seen := seen }
      | some (.save slot next) =>
        let thread := ⟨next, thread.slots.setIfInBounds slot (some place.pos)⟩
        Threads.follow code place fuel (thread :: stack) { threads with seen := seen }
      | some (.split preferred other) =>
        -- The preferred way is followed to its end before the other one is looked at.
        let stack := { thread with state := preferred } :: { thread with state := other } :: stack
        Threads.follow code place fuel stack { threads with seen := seen }
      | _ => Threads.follow code place fuel stack ⟨threads.ways.push thread, seen⟩

/-- Adds a way, least preferred, that enters `thread` at `place`. -/
def Threads.enter (threads : Threads) (code : Code) (place : Place) (thread : Thread) :
    Threads :=
  threads.follow code place (2 * code.size + 2) [thread]

/-- Takes the character before `place` on every way, the preferred ones first.  A
way that accepts ends the round: those after it are less preferred. -/
def takeChar (code : Code) (c : Char) (place : Place) : List Thread → (found : Option Slots) →
    Threads → Option Slots × Threads
  | [], found, threads => (found, threads)
  | thread :: rest, found, threads =>
    match code[thread.state]? with
    | some .accept => (some thread.slots, threads)
    | some (.chars set next) =>
      let threads :=
        if set.contains c then threads.enter code place { thread with state := next }
        else threads
      takeChar code c place rest found threads
    | _ => takeChar code c place rest found threads

/-- What the first accepting way has noted. -/
def accepted? (code : Code) (threads : Threads) : Option Slots :=
  (threads.ways.find? fun thread => code[thread.state]? == some .accept).map (·.slots)

/-- Runs on from a place.  As long as nothing is found, a new way starts at every
place; a way that accepts is preferred to what was found before. -/
def search (code : Code) (start : Thread) (before : Option Char) (pos : Nat) :
    List Char → Threads → (found : Option Slots) → Option Slots
  | [], threads, found =>
    let threads := if found.isNone then threads.enter code ⟨before, pos, []⟩ start else threads
    (accepted? code threads).or found
  | c :: rest, threads, found =>
    let threads :=
      if found.isNone then threads.enter code ⟨before, pos, c :: rest⟩ start else threads
    -- Only ways that are preferred to what was found are left; without them it stands.
    if threads.ways.isEmpty && found.isSome then found
    else
      let (found, threads) :=
        takeChar code c ⟨some c, pos + 1, rest⟩ threads.ways.toList found (.empty code)
      search code start (some c) (pos + 1) rest threads found

end RuleScript.Regex

/-! ## §3. Regular expressions. -/

namespace RuleScript

/-- A pattern that is ready to be searched for. -/
structure Regex where
  program : Regex.Part
  groups : Nat
  names : List (List Char × Nat)
  deriving Repr, DecidableEq

namespace Regex

/-- The regular expression that a text spells. -/
def ofText? (s : String) : Option Regex :=
  (Pattern.ofText? s.toList).map fun pattern =>
    ⟨pattern.node.program, pattern.groups, pattern.names⟩

/-- What the preferred match that starts at `place` or later has noted. -/
def searchFrom? (re : Regex) (place : Place) : Option Slots :=
  let start : Thread := ⟨re.program.entry, Array.replicate (2 * re.groups + 2) none⟩
  search re.program.code start place.before place.pos place.rest (.empty re.program.code) none

/-- The expression matches somewhere in the text. -/
def occursIn (re : Regex) (s : String) : Bool := (re.searchFrom? (.start s.toList)).isSome

end Regex

end RuleScript
