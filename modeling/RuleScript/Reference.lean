/-
  RuleScript.Reference
  ────────────────────
  **References to values inside words.**

  A reference is written `$(path)`, where the path has letters, digits, `_`, `.`
  and `-` only.  Expansion puts the text of its value in place of every reference.
  The word is cut into pieces first, so text that has been put in is never looked
  at again.  A reference that cannot be read stays as it is written, and the first
  of them is reported.
-/
import RuleScript.Environment

namespace RuleScript

namespace Reference

/-! ## §1. Cutting a word. -/

/-- A piece of a word. -/
inductive Piece where
  | char (c : Char)
  | reference (path : List Char)
  deriving Repr, DecidableEq

/-- The character may stand in the path of a reference. -/
def isPathChar (c : Char) : Bool := c.isAlphanum || c == '_' || c == '.' || c == '-'

/-- The path of a reference, after its `$(`, and what follows its `)`. -/
def readPath? (s : List Char) : Option (List Char × List Char) :=
  match s.takeWhile isPathChar, s.dropWhile isPathChar with
  | c :: path, ')' :: rest => some (c :: path, rest)
  | _, _ => none

theorem length_lt_of_readPath? {s path rest : List Char}
    (h : readPath? s = some (path, rest)) : rest.length < s.length := by
  unfold readPath? at h
  split at h
  · next c path' rest' htake hdrop =>
    cases h
    have := congrArg List.length (List.takeWhile_append_dropWhile (p := isPathChar) (l := s))
    simp [htake, hdrop] at this
    omega
  · cases h

/-- The pieces of a word, in order.  An opening that starts no reference is text. -/
def pieces : List Char → List Piece
  | [] => []
  | c :: rest =>
    match _h : if c = '$' ∧ rest.head? = some '(' then readPath? (rest.drop 1) else none with
    | some (path, after) => .reference path :: pieces after
    | none => .char c :: pieces rest
termination_by s => s.length
decreasing_by
  · split at _h
    · have := length_lt_of_readPath? _h
      simp only [List.length_drop, List.length_cons] at this ⊢
      omega
    · cases _h
  · exact Nat.lt_succ_self _

/-- The text that a piece was cut from. -/
def Piece.source : Piece → List Char
  | .char c => [c]
  | .reference path => ['$', '('] ++ path ++ [')']

theorem eq_of_readPath? {s path rest : List Char} (h : readPath? s = some (path, rest)) :
    s = path ++ ')' :: rest := by
  unfold readPath? at h
  split at h
  · next c path' rest' htake hdrop =>
    cases h
    rw [← List.takeWhile_append_dropWhile (p := isPathChar) (l := s), htake, hdrop]
  · cases h

/-- Cutting loses nothing. -/
theorem flatMap_source_pieces (s : List Char) : (pieces s).flatMap Piece.source = s := by
  fun_induction pieces s with
  | case1 => rfl
  | case2 c rest path after h ih =>
    split at h
    · next hopen =>
      obtain ⟨rfl, hhead⟩ := hopen
      cases rest with
      | nil => simp at hhead
      | cons d rest =>
        simp only [List.head?_cons, Option.some.injEq] at hhead
        subst hhead
        rw [List.drop_one, List.tail_cons] at h
        rw [List.flatMap_cons, ih, eq_of_readPath? h]
        simp [Piece.source]
    · cases h
  | case3 c rest _ ih => rw [List.flatMap_cons, ih]; rfl

/-! ## §2. Expansion. -/

/-- The value that a reference points at, if the piece is a reference. -/
def Piece.value? (env : Environment) : Piece → Option (Except PathError Value)
  | .char _ => none
  | .reference path => some (env.read (String.ofList path))

/-- The text that takes the place of a piece. -/
def Piece.text (env : Environment) (piece : Piece) : List Char :=
  match piece.value? env with
  | some (.ok value) => value.text.toList
  | _ => piece.source

/-- Why a piece cannot be expanded. -/
def Piece.failure? (env : Environment) (piece : Piece) : Option PathError :=
  match piece.value? env with
  | some (.error e) => some e
  | _ => none

end Reference

/-- A word after expansion, and the first failure. -/
structure Expanded where
  text : String
  failure : Option PathError
  deriving Repr, DecidableEq

namespace Environment

/-- Puts the text of its value in place of every reference in a word. -/
def expand (env : Environment) (word : String) : Expanded :=
  let pieces := Reference.pieces word.toList
  ⟨String.ofList (pieces.flatMap (·.text env)), pieces.findSome? (·.failure? env)⟩

/-- The expanded word, if every reference in it can be read. -/
def expand? (env : Environment) (word : String) : Except PathError String :=
  let expanded := env.expand word
  match expanded.failure with
  | none => .ok expanded.text
  | some e => .error e

end Environment

end RuleScript
