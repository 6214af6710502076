/-
  RuleScript.Script.Uncommented
  ─────────────────────────────
  **A script without its comments.**

  Three forms are removed, leftmost first and never nested: `#` and `//` up to
  and with the end of the line, and `/*` up to and with the first `*/`.  A `/*`
  that is never closed stays, with all that follows it.  Removal does not look
  at quotes, so a marker inside a quoted word starts a comment too.
-/

namespace RuleScript.Script

/-! ## §1. Bytes with a meaning. -/

/-- The byte that ends a line. -/
def newline : UInt8 := 0x0A

/-- The byte `#`. -/
def hash : UInt8 := 0x23

/-- The byte `*`. -/
def star : UInt8 := 0x2A

/-- The byte `/`. -/
def slash : UInt8 := 0x2F

/-! ## §2. Where comments start and end. -/

/-- A comment that runs to the end of the line starts here. -/
def opensLineComment : List UInt8 → Bool
  | a :: b :: _ => a == hash || (a == slash && b == slash)
  | [a] => a == hash
  | [] => false

/-- A comment that runs to `*/` starts here. -/
def opensBlockComment : List UInt8 → Bool
  | a :: b :: _ => a == slash && b == star
  | _ => false

/-- What follows the current line. -/
def afterLine : List UInt8 → List UInt8
  | [] => []
  | b :: rest => if b = newline then rest else afterLine rest

/-- What follows the first `*/`, if there is one. -/
def afterBlock? : List UInt8 → Option (List UInt8)
  | [] => none
  | [_] => none
  | a :: b :: rest =>
    if a = star ∧ b = slash then some rest else afterBlock? (b :: rest)

theorem length_afterLine_le (s : List UInt8) : (afterLine s).length ≤ s.length := by
  induction s with
  | nil => exact Nat.le_refl _
  | cons b rest ih =>
    rw [afterLine]
    split
    · exact Nat.le_succ _
    · exact Nat.le_succ_of_le ih

theorem length_lt_of_afterBlock? {s r : List UInt8} (h : afterBlock? s = some r) :
    r.length < s.length := by
  fun_induction afterBlock? s with
  | case1 => simp at h
  | case2 => simp at h
  | case3 a b rest =>
    cases h
    exact Nat.lt_succ_of_lt (Nat.lt_succ_self _)
  | case4 a b rest _ ih => exact Nat.lt_succ_of_lt (ih h)

/-! ## §3. Removal. -/

/-- The script without its comments. -/
def uncomment : List UInt8 → List UInt8
  | [] => []
  | b :: rest =>
    if opensLineComment (b :: rest) then uncomment (afterLine rest)
    else if opensBlockComment (b :: rest) then
      match _h : afterBlock? (rest.drop 1) with
      | some after => uncomment after
      | none => b :: rest
    else b :: uncomment rest
termination_by s => s.length
decreasing_by
  · exact Nat.lt_succ_of_le (length_afterLine_le rest)
  · have := length_lt_of_afterBlock? _h
    simp only [List.length_drop, List.length_cons] at this ⊢
    omega
  · exact Nat.lt_succ_self _

end RuleScript.Script
