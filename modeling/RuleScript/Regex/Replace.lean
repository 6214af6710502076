/-
  RuleScript.Regex.Replace
  ────────────────────────
  **Replacing every match.**

  Matches are taken from left to right and do not overlap; an empty match right
  where the last match ended does not count.  The replacement is a text with
  references to groups: `$$` is a dollar sign, `$name` takes the longest run of
  letters, digits and underscores, and a name in braces may be any text.  A name
  that is a number means the group of that number.  A group that took no part in
  the match, or that does not exist, gives nothing.
-/
import RuleScript.Engine
import RuleScript.Regex.Search

namespace RuleScript.Regex

/-! ## §1. Matches. -/

/-- What a match has noted, and the text it was found in. -/
structure Match where
  slots : Slots
  start : Nat
  stop : Nat
  deriving Repr, DecidableEq

/-- The preferred match that starts at `place` or later. -/
def find? (re : Regex) (place : Place) : Option Match := do
  let slots ← re.searchFrom? place
  return ⟨slots, ← slots[0]?.join, ← slots[1]?.join⟩

/-- The next match from `place` on, the last one having ended at `last`. -/
def next? (re : Regex) (place : Place) (last : Option Nat) : Option Match :=
  match re.find? place with
  | none => none
  | some found =>
    if found.start = found.stop ∧ last = some found.stop then
      if place.rest.isEmpty then none else re.find? (place.forward 1)
    else some found

/-- The matches from `place` on.  Each ends after the last one, so that there are
at most one more of them than characters. -/
def matchesFrom (re : Regex) : (fuel : Nat) → Place → (last : Option Nat) → List Match
  | 0, _, _ => []
  | fuel + 1, place, last =>
    match re.next? place last with
    | none => []
    | some found =>
      found :: matchesFrom re fuel (place.forward (found.stop - place.pos)) (some found.stop)

/-- All matches in a text. -/
def allMatches (re : Regex) (text : List Char) : List Match :=
  re.matchesFrom (text.length + 2) (.start text) none

/-! ## §2. Replacements. -/

/-- A piece of a replacement. -/
inductive Piece where
  | text (c : Char)
  | group (name : List Char)
  deriving Repr, DecidableEq

/-- The character may stand in a name without braces. -/
def isRefChar (c : Char) : Bool := c.isAlphanum || c == '_'

/-- The pieces of a replacement. -/
def pieces : (fuel : Nat) → List Char → List Piece
  | 0, _ => []
  | _ + 1, [] => []
  | fuel + 1, c :: rest =>
    if c ≠ '$' then .text c :: pieces fuel rest
    else
      match rest with
      | '$' :: rest => .text '$' :: pieces fuel rest
      | '\x7b' :: more =>
        match more.dropWhile (· != '\x7d') with
        | _ :: after => .group (more.takeWhile (· != '\x7d')) :: pieces fuel after
        | [] => .text '$' :: pieces fuel rest
      | rest =>
        let name := rest.takeWhile isRefChar
        if name.isEmpty then .text '$' :: pieces fuel rest
        else .group name :: pieces fuel (rest.dropWhile isRefChar)

/-- The number of the group that a name means. -/
def groupNumber? (re : Regex) (name : List Char) : Option Nat :=
  (Numeral.unsigned? Numeral.max64 name).or (re.names.lookup name)

/-- What a group matched. -/
def groupText (text : Array Char) (found : Match) (index : Nat) : List Char :=
  match found.slots[2 * index]?.join, found.slots[2 * index + 1]?.join with
  | some start, some stop => (text.extract start stop).toList
  | _, _ => []

/-- The text of a piece at a match. -/
def Piece.fill (re : Regex) (text : Array Char) (found : Match) : Piece → List Char
  | .text c => [c]
  | .group name => (re.groupNumber? name).elim [] (groupText text found)

/-! ## §3. Replacing. -/

/-- The text from position `pos` on, each match replaced by what `fill` gives. -/
def splice (fill : Match → List Char) (pos : Nat) (rest : List Char) : List Match → List Char
  | [] => rest
  | found :: more =>
    rest.take (found.start - pos) ++ fill found
      ++ splice fill found.stop (rest.drop (found.stop - pos)) more

/-- The text with every match replaced. -/
def replaceAll (re : Regex) (s replacement : String) : String :=
  let text := s.toList
  let template := pieces (replacement.length + 1) replacement.toList
  let fill (found : Match) : List Char :=
    template.flatMap (Piece.fill re text.toArray found)
  String.ofList (splice fill 0 text (re.allMatches text))

/-- Where an expression matches nowhere, no match is found. -/
theorem allMatches_of_not_occursIn {re : Regex} {s : String} (h : re.occursIn s = false) :
    re.allMatches s.toList = [] := by
  have hsearch : re.searchFrom? (.start s.toList) = none := by
    rw [← Option.not_isSome_iff_eq_none]
    exact Bool.not_eq_true _ ▸ h
  have hfind : re.find? (.start s.toList) = none := by
    unfold find?
    rw [hsearch]
    rfl
  unfold allMatches matchesFrom next?
  rw [hfind]

theorem replaceAll_of_allMatches_eq_nil {re : Regex} {s : String} (replacement : String)
    (h : re.allMatches s.toList = []) : re.replaceAll s replacement = s := by
  simp [replaceAll, h, splice]

/-! ## §4. The engine. -/

/-- An engine, for patterns of any size whose `\p` names a general category or one of the
properties of `Unicode.Property`. -/
def engine : Engine where
  compile pattern :=
    match ofText? pattern with
    | some re => .ok ⟨re.occursIn, re.replaceAll⟩
    | none => .error "not a pattern"

theorem engine_keepsUnmatched : engine.KeepsUnmatched := by
  intro pattern expression hcompile text replacement hunmatched
  unfold engine at hcompile
  simp only at hcompile
  split at hcompile
  · cases hcompile
    exact replaceAll_of_allMatches_eq_nil replacement (allMatches_of_not_occursIn hunmatched)
  · cases hcompile

end RuleScript.Regex
