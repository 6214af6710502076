/-
  RuleScript.Script.Word
  ──────────────────────
  **A script as a list of words.**

  Words stand between blanks.  A word that starts with a quote runs to the next
  quote and keeps its blanks; a backslash right before a quote makes that quote
  part of the word.  The end of a line ends the word, quoted or not, so a quote
  left open spoils its own line only.  An empty line gives an empty word.

  Reading a word never fails: `Cursor.next?` is `none` only where no word is
  left, and otherwise the rest is shorter (`Cursor.length_rest_lt_of_next?`).
-/
import RuleScript.Text.Utf8
import RuleScript.Script.Uncommented

namespace RuleScript.Script

/-! ## §1. Words and places in a script. -/

/-- A word and the line it starts on, counted from 1. -/
structure Word where
  text : String
  line : Nat
  deriving Repr, DecidableEq

/-- A place in a script: what is left of it, and the line it is on. -/
structure Cursor where
  rest : List UInt8
  line : Nat
  deriving Repr, DecidableEq

/-- The place where a script starts. -/
def Cursor.start (script : List UInt8) : Cursor := ⟨script, 1⟩

/-- Nothing is left. -/
def Cursor.atEnd (c : Cursor) : Bool := c.rest.isEmpty

/-- The byte `"`. -/
def quote : UInt8 := 0x22

/-- The byte `\`. -/
def backslash : UInt8 := 0x5C

/-- A space, a tab or a carriage return. -/
def isBlank (b : UInt8) : Bool := b == 0x20 || b == 0x09 || b == 0x0D

/-! ## §2. The bytes of one word. -/

/-- The bytes of a word, whether the end of a line ended it, and what is left. -/
structure Chunk where
  bytes : List UInt8
  endsLine : Bool
  rest : List UInt8
  deriving Repr, DecidableEq

/-- Reads on in a word of which `seen`, last byte first, is already read;
`quoted` says that the word started with a quote. -/
def readChunk? (quoted : Bool) (seen : List UInt8) : List UInt8 → Option Chunk
  | [] => if seen.isEmpty && !quoted then none else some ⟨seen.reverse, false, []⟩
  | b :: rest =>
    if b = newline then some ⟨seen.reverse, true, rest⟩
    else if !quoted && isBlank b then
      if seen.isEmpty then readChunk? quoted seen rest
      else some ⟨seen.reverse, false, rest⟩
    else if b = quote then
      match seen with
      | last :: before =>
        -- The backslash was read as a byte of the word; the quote takes its place.
        if last = backslash then readChunk? quoted (quote :: before) rest
        else some ⟨seen.reverse, false, rest⟩
      | [] => if quoted then some ⟨[], false, rest⟩ else readChunk? true [] rest
    else readChunk? quoted (b :: seen) rest

theorem length_rest_le_of_readChunk? {quoted : Bool} {seen s : List UInt8} {k : Chunk}
    (h : readChunk? quoted seen s = some k) : k.rest.length ≤ s.length := by
  induction s generalizing quoted seen with
  | nil =>
    simp only [readChunk?] at h
    split at h
    · cases h
    · cases h; exact Nat.le_refl _
  | cons b rest ih =>
    rw [readChunk?.eq_def] at h
    simp only at h
    have step {q : Bool} {a : List UInt8} (e : readChunk? q a rest = some k) :
        k.rest.length ≤ (b :: rest).length := Nat.le_succ_of_le (ih e)
    have stop {a : List UInt8} {e : Bool} (he : some (⟨a, e, rest⟩ : Chunk) = some k) :
        k.rest.length ≤ (b :: rest).length := by
      cases he; exact Nat.le_succ _
    repeat' split at h
    all_goals first
      | exact step h
      | exact stop h

/-- A word takes at least one byte. -/
theorem length_rest_lt_of_readChunk? {s : List UInt8} {k : Chunk}
    (h : readChunk? false [] s = some k) : k.rest.length < s.length := by
  cases s with
  | nil => simp [readChunk?] at h
  | cons b rest =>
    rw [readChunk?.eq_def] at h
    simp only at h
    have step {q : Bool} {a : List UInt8} (e : readChunk? q a rest = some k) :
        k.rest.length < (b :: rest).length :=
      Nat.lt_succ_of_le (length_rest_le_of_readChunk? e)
    have stop {a : List UInt8} {e : Bool} (he : some (⟨a, e, rest⟩ : Chunk) = some k) :
        k.rest.length < (b :: rest).length := by
      cases he; exact Nat.lt_succ_self _
    repeat' split at h
    all_goals first
      | exact step h
      | exact stop h

/-! ## §3. All words. -/

/-- The next word and the place after it. -/
def Cursor.next? (c : Cursor) : Option (Word × Cursor) :=
  match readChunk? false [] c.rest with
  | none => none
  | some k =>
    some (⟨Utf8.text k.bytes, c.line⟩,
      ⟨k.rest, if k.endsLine then c.line + 1 else c.line⟩)

theorem Cursor.length_rest_lt_of_next? {c d : Cursor} {w : Word}
    (h : c.next? = some (w, d)) : d.rest.length < c.rest.length := by
  unfold Cursor.next? at h
  split at h
  · cases h
  · next k hk =>
    cases h
    exact length_rest_lt_of_readChunk? hk

/-- The words from here on. -/
def Cursor.words (c : Cursor) : List Word :=
  match _h : c.next? with
  | none => []
  | some (w, d) => w :: d.words
termination_by c.rest.length
decreasing_by exact Cursor.length_rest_lt_of_next? _h

/-- The line that a script ends on: one more than it has ends of lines. -/
def lastLine (script : List UInt8) : Nat := 1 + script.count newline

end RuleScript.Script
