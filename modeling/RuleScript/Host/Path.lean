/-
  RuleScript.Host.Path
  ────────────────────
  **Reading, writing and clearing what a path points at.**

  A path is a list of segments.  A segment names a field of a record or a key of
  a keyed container, letters `A` to `Z` in any case and the first match winning,
  or counts the elements of a sequence from 0.  Optionals take no segment, and a
  path that ends at a sequence means its first element.

  `write` and `clear` return a host in any case.  `write` fills absent optionals on
  its way, and what it has filled stays filled when it fails further on.  `clear`
  fails only at a segment that should count elements and does not, and the host is
  then as it was.
-/
import RuleScript.Host.Basic

namespace RuleScript

/-! ## §1. What can go wrong. -/

/-- Why a path cannot be followed, or not to this end. -/
inductive PathError where
  | unknownRoot (name : String)
  | notFound (segment : String) (kind : Host.Kind) (typeName : String)
  | invalidIndex (segment typeName : String)
  | outOfRange (index length : Nat) (typeName : String)
  | pastScalar (segment : String) (kind : Host.Kind)
  | absent (typeName : String)
  | notAssignable (kind : Host.Kind) (typeName : String)
  | notInteger (text : String) (fault : Numeral.Fault)
  | notConstructible (typeName : String)
  deriving Repr, DecidableEq

/-- The wording of a failed path. -/
def PathError.message : PathError → String
  | .unknownRoot name => s!"unknown resource '{name}'"
  | .notFound segment kind typeName =>
    s!"segment '{segment}' has not been found in {kind.name} '{typeName}'"
  | .invalidIndex segment typeName =>
    s!"expected an index into '{typeName}' but got '{segment}'"
  | .outOfRange index length typeName =>
    s!"index {index} is out of range for '{typeName}' of length {length}"
  | .pastScalar segment kind => s!"segment '{segment}' cannot follow scalar {kind.name}"
  | .absent typeName => s!"value of '{typeName}' is absent"
  | .notAssignable kind typeName => s!"cannot assign to {kind.name} '{typeName}'"
  | .notInteger text fault => s!"cannot convert '{text}' to integer: {fault.message}"
  | .notConstructible typeName => s!"cannot construct empty value of type '{typeName}'"

namespace Host

/-! ## §2. Steps. -/

/-- The position that a segment counts. -/
def position? (segment : String) : Option Nat :=
  Numeral.unsigned? Numeral.max64 segment.toList

/-- The path ends at a scalar. -/
def endAt (kind : Kind) : List String → Except PathError Unit
  | [] => .ok ()
  | segment :: _ => .error (.pastScalar segment kind)

/-! ## §3. Reading. -/

/-- The value that a path points at. -/
def read : Host → List String → Except PathError Value
  | .string text, path => (endAt .string path).map fun _ => .string text
  | .integer value, path => (endAt .integer path).map fun _ => .integer value
  | .boolean value, path => (endAt .boolean path).map fun _ => .boolean value
  | .bytes content, path => (endAt .bytes path).map fun _ => .bytes content
  | .record layout _, [] => .ok (.composite .record layout.name)
  | .record layout cells, segment :: path =>
    match layout.child? cells segment with
    | some (_, child) => child.read path
    | none => .error (.notFound segment .record layout.name)
  | .fixed layout _, [] => .ok (.composite .keyed layout.name)
  | .fixed layout cells, segment :: path =>
    match layout.child? cells segment with
    | some (_, child) => child.read path
    | none => .error (.notFound segment .keyed layout.name)
  | .map kind entry _, [] => .ok (.composite .keyed (Shape.map kind entry).name)
  | .map kind entry entries, segment :: path =>
    match entry? entries segment with
    | some (_, _, child) => child.read path
    | none => .error (.notFound segment .keyed (Shape.map kind entry).name)
  | .sequence element [], [] => .error (.outOfRange 0 0 (Shape.sequence element).name)
  | .sequence _ (item :: _), [] => item.read []
  | .sequence element items, segment :: path =>
    match position? segment with
    | none => .error (.invalidIndex segment (Shape.sequence element).name)
    | some i =>
      match items[i]? with
      | some item => item.read path
      | none => .error (.outOfRange i items.length (Shape.sequence element).name)
  | .absent inner, _ => .error (.absent (Shape.optional inner).name)
  | .present _ content, path => content.read path
termination_by h path => (path.length, h.rank)
decreasing_by
  all_goals first
    | exact Prod.Lex.left _ _ (Nat.lt_succ_self _)
    | exact Prod.Lex.right _ (rank_head_lt ..)
    | exact Prod.Lex.right _ (rank_content_lt ..)

/-! ## §4. Writing. -/

/-- A host after it has been changed, and what went wrong. -/
structure Changed where
  host : Host
  failure : Option PathError
  deriving Repr

/-- What a change of a part is around that part. -/
def Changed.map (rebuild : Host → Host) (changed : Changed) : Changed :=
  ⟨rebuild changed.host, changed.failure⟩

/-- Writes a text into a scalar. -/
def Changed.scalar (kind : Kind) (old : Host) (path : List String)
    (new : Except PathError Host) : Changed :=
  match (endAt kind path).bind fun _ => new with
  | .ok host => ⟨host, none⟩
  | .error e => ⟨old, some e⟩

/-- The integer that a text spells. -/
def readInteger (text : String) : Except PathError Int64 :=
  (Numeral.integer text).mapError (.notInteger text)

/-- Writes a text at the end of a path.  The text has to suit the scalar that is
there; at the end of the path, a key that a map does not have is created. -/
def write (catalog : Catalog) (text : String) : Host → List String → Changed
  | .string old, path => .scalar .string (.string old) path (.ok (.string text))
  | .integer old, path =>
    .scalar .integer (.integer old) path ((readInteger text).map .integer)
  | .boolean old, path =>
    .scalar .boolean (.boolean old) path (.ok (.boolean (readBool text)))
  | .bytes old, path =>
    .scalar .bytes (.bytes old) path (.ok (.bytes (Utf8.encode text)))
  | .record layout cells, [] =>
    ⟨.record layout cells, some (.notAssignable .record layout.name)⟩
  | .record layout cells, segment :: path =>
    match layout.child? cells segment with
    | some (i, child) =>
      let written := child.write catalog text path
      ⟨.record layout (cells.set i written.host), written.failure⟩
    | none => ⟨.record layout cells, some (.notFound segment .record layout.name)⟩
  | .fixed layout cells, [] =>
    ⟨.fixed layout cells, some (.notAssignable .keyed layout.name)⟩
  | .fixed layout cells, segment :: path =>
    match layout.child? cells segment with
    | some (i, child) =>
      let written := child.write catalog text path
      ⟨.fixed layout (cells.set i written.host), written.failure⟩
    | none =>
      if path.isEmpty && !layout.slots.any (Text.sameName ·.1 segment) then
        ⟨.fixed layout cells, some (.notConstructible segment)⟩
      else ⟨.fixed layout cells, some (.notFound segment .keyed layout.name)⟩
  | .map kind entry entries, [] =>
    ⟨.map kind entry entries, some (.notAssignable .keyed (Shape.map kind entry).name)⟩
  | .map kind entry entries, segment :: path =>
    match entry? entries segment with
    | some (i, key, child) =>
      let written := child.write catalog text path
      ⟨.map kind entry (entries.set i (key, written.host)), written.failure⟩
    | none =>
      if path.isEmpty then
        match entry.make text with
        | .ok host => ⟨.map kind entry (Sorted.put segment host entries), none⟩
        | .error fault => ⟨.map kind entry entries, some (.notInteger text fault)⟩
      else ⟨.map kind entry entries, some (.notFound segment .keyed (Shape.map kind entry).name)⟩
  | .sequence element [], [] =>
    ⟨.sequence element [], some (.outOfRange 0 0 (Shape.sequence element).name)⟩
  | .sequence element (item :: items), [] =>
    let written := item.write catalog text []
    ⟨.sequence element (written.host :: items), written.failure⟩
  | .sequence element items, segment :: path =>
    match position? segment with
    | none =>
      ⟨.sequence element items, some (.invalidIndex segment (Shape.sequence element).name)⟩
    | some i =>
      match items[i]? with
      | some item =>
        let written := item.write catalog text path
        ⟨.sequence element (items.set i written.host), written.failure⟩
      | none =>
        ⟨.sequence element items,
          some (.outOfRange i items.length (Shape.sequence element).name)⟩
  | .absent inner, path =>
    match _h : inner.empty? catalog with
    | none => ⟨.absent inner, some (.notConstructible inner.name)⟩
    | some content =>
      let written := content.write catalog text path
      ⟨.present inner written.host, written.failure⟩
  | .present inner content, path =>
    let written := content.write catalog text path
    ⟨.present inner written.host, written.failure⟩
termination_by h path => (path.length, h.rank)
decreasing_by
  all_goals first
    | exact Prod.Lex.left _ _ (Nat.lt_succ_self _)
    | exact Prod.Lex.right _ (rank_head_lt ..)
    | exact Prod.Lex.right _ (rank_content_lt ..)
    | exact Prod.Lex.right _ (rank_lt_of_empty? _h)

/-! ## §5. Clearing. -/

/-- Clears what a path points at.  An entry of a map is taken out.  What is not
there counts as cleared. -/
def clear : Host → List String → Changed
  | h, [] => ⟨h.cleared, none⟩
  | .record layout cells, segment :: path =>
    match layout.child? cells segment with
    | some (i, child) => (child.clear path).map fun cell => .record layout (cells.set i cell)
    | none => ⟨.record layout cells, none⟩
  | .fixed layout cells, segment :: path =>
    match layout.child? cells segment with
    | some (i, child) =>
      if path.isEmpty then ⟨.fixed layout cells, none⟩
      else (child.clear path).map fun cell => .fixed layout (cells.set i cell)
    | none => ⟨.fixed layout cells, none⟩
  | .map kind entry entries, segment :: path =>
    match entry? entries segment with
    | some (i, key, child) =>
      if path.isEmpty then ⟨.map kind entry (entries.eraseIdx i), none⟩
      else (child.clear path).map fun host => .map kind entry (entries.set i (key, host))
    | none => ⟨.map kind entry entries, none⟩
  | .sequence element items, segment :: path =>
    match position? segment with
    | none =>
      ⟨.sequence element items, some (.invalidIndex segment (Shape.sequence element).name)⟩
    | some i =>
      match items[i]? with
      | some item => (item.clear path).map fun item => .sequence element (items.set i item)
      | none => ⟨.sequence element items, none⟩
  | .present inner content, path => (content.clear path).map (.present inner ·)
  | h, _ :: _ => ⟨h, none⟩
termination_by h path => (path.length, h.rank)
decreasing_by
  all_goals first
    | exact Prod.Lex.left _ _ (Nat.lt_succ_self _)
    | exact Prod.Lex.right _ (rank_content_lt ..)

end Host

end RuleScript
