/-
  RuleScript.Host.Basic
  ─────────────────────
  **Host values.**

  A host value is a tree.  A record keeps its values in cells, and its layout
  says which declared name stands for which cell: two names may share one, and a
  name may have none.  A keyed container is a map, or has fixed keys laid out
  like the fields of a record.  An optional is absent or present; where it is
  absent, its type says what it could hold.
-/
import RuleScript.Host.Shape
import RuleScript.Sorted
import RuleScript.Text.Caseless
import RuleScript.Text.Numeral
import RuleScript.Text.Utf8

namespace RuleScript

namespace Host

/-! ## §1. Layouts. -/

/-- The declared names of a record, in order, and the cell behind each. -/
structure Layout where
  name : String
  slots : List (String × Option Nat)
  deriving Repr, DecidableEq

/-- The layout in which every declared name has a cell of its own. -/
def Layout.ofFields (name : String) (fields : List String) : Layout :=
  ⟨name, fields.zipIdx.map fun (field, i) => (field, some i)⟩

/-- The cell behind the first declared name that `segment` names. -/
def Layout.find? (layout : Layout) (segment : String) : Option Nat :=
  (layout.slots.find? fun slot => Text.sameName slot.1 segment).bind (·.2)

/-- The cell behind exactly this declared name. -/
def Layout.cell? (layout : Layout) (name : String) : Option Nat :=
  (layout.slots.lookup name).join

/-- The cell is behind a declared name. -/
def Layout.reaches (layout : Layout) (i : Nat) : Bool :=
  layout.slots.any fun slot => layout.cell? slot.1 == some i

end Host

/-! ## §2. Values. -/

/-- A host value. -/
inductive Host where
  | string (text : String)
  | integer (value : Int64)
  | boolean (value : Bool)
  | bytes (content : List UInt8)
  | record (layout : Host.Layout) (cells : List Host)
  /-- A keyed container whose keys are fixed. -/
  | fixed (layout : Host.Layout) (cells : List Host)
  | map (kind : Host.MapKind) (entry : Host.EntryType) (entries : List (String × Host))
  | sequence (element : Host.Shape) (items : List Host)
  | absent (inner : Host.Shape)
  | present (inner : Host.Shape) (content : Host)
  deriving Repr

namespace Host

/-! ## §3. Kinds, types and parts. -/

/-- The kind of a value. -/
def kind : Host → Kind
  | .string _ => .string
  | .integer _ => .integer
  | .boolean _ => .boolean
  | .bytes _ => .bytes
  | .record _ _ => .record
  | .fixed _ _ => .keyed
  | .map _ _ _ => .keyed
  | .sequence _ _ => .sequence
  | .absent _ => .optional
  | .present _ _ => .optional

/-- The name of a value's type in messages; a scalar goes by its kind. -/
def typeName : Host → String
  | .record layout _ => layout.name
  | .fixed layout _ => layout.name
  | .map kind entry _ => (Shape.map kind entry).name
  | .sequence element _ => (Shape.sequence element).name
  | .absent inner => (Shape.optional inner).name
  | .present inner _ => (Shape.optional inner).name
  | scalar => scalar.kind.name

/-- The cell behind the first declared name that `segment` names, and its place. -/
def Layout.child? (layout : Layout) (cells : List Host) (segment : String) :
    Option (Nat × Host) := do
  let i ← layout.find? segment
  return (i, ← cells[i]?)

/-- The first entry whose key `segment` names, and its place. -/
def entry? (entries : List (String × Host)) (segment : String) :
    Option (Nat × String × Host) := do
  let i ← entries.findIdx? fun entry => Text.sameName entry.1 segment
  return (i, ← entries[i]?)

/-! ## §4. Empty values. -/

/-- A record as it is when nothing has been set in it. -/
structure Blueprint where
  layout : Layout
  cells : List Host
  deriving Repr

/-- The record types that have an empty value. -/
abbrev Catalog := List Blueprint

/-- The empty record of a type. -/
def Catalog.find? (catalog : Catalog) (name : String) : Option Host :=
  (List.find? (fun blueprint : Blueprint => blueprint.layout.name == name) catalog).map
    fun blueprint => .record blueprint.layout blueprint.cells

/-- The value that an absent optional of this type is filled with.  A sequence
gets one empty element, so that it has a first one; scalars and optionals have no
empty value. -/
def Shape.empty? (catalog : Catalog) : Shape → Option Host
  | .map kind entry => some (.map kind entry [])
  | .record name => catalog.find? name
  | .sequence element => (element.empty? catalog).map fun item => .sequence element [item]
  | _ => none

/-- How many sequences and optionals stand in front of what a path that has come
to its end points at. -/
def rank : Host → Nat
  | .sequence _ (item :: _) => item.rank + 1
  | .absent inner => shapeRank inner + 1
  | .present _ content => content.rank + 1
  | _ => 0
where
  /-- The rank of the empty value of a type. -/
  shapeRank : Shape → Nat
    | .sequence element => shapeRank element + 1
    | _ => 0

theorem rank_head_lt (element : Shape) (item : Host) (items : List Host) :
    item.rank < (sequence element (item :: items)).rank := by
  rw [rank]; exact Nat.lt_succ_self _

theorem rank_content_lt (inner : Shape) (content : Host) :
    content.rank < (present inner content).rank := by
  rw [rank]; exact Nat.lt_succ_self _

theorem rank_eq_of_empty? {catalog : Catalog} {shape : Shape} {h : Host}
    (he : shape.empty? catalog = some h) : h.rank = rank.shapeRank shape := by
  induction shape generalizing h with
  | map kind entry => cases he; rfl
  | record name =>
    obtain ⟨blueprint, _, rfl⟩ := Option.map_eq_some_iff.1 he
    rw [rank, rank.shapeRank] <;> simp
  | sequence element ih =>
    obtain ⟨item, hitem, rfl⟩ := Option.map_eq_some_iff.1 he
    rw [rank, rank.shapeRank, ih hitem]
  | _ => cases he

/-- What fills an absent optional is of lower rank than the optional. -/
theorem rank_lt_of_empty? {catalog : Catalog} {inner : Shape} {content : Host}
    (h : inner.empty? catalog = some content) : content.rank < (absent inner).rank := by
  rw [rank_eq_of_empty? h, rank]; exact Nat.lt_succ_self _

/-! ## §5. Values from text. -/

/-- The boolean that a text stands for: `true` in any case, or else false. -/
def readBool (text : String) : Bool := Text.sameName text "true"

/-- The entry of a map that a text makes. -/
def EntryType.make (text : String) : EntryType → Except Numeral.Fault Host
  | .string => .ok (.string text)
  | .integer => (Numeral.integer text).map .integer
  | .boolean => .ok (.boolean (readBool text))
  | .strings => .ok (.sequence .string [.string text])

/-! ## §6. Clearing. -/

mutual

/-- The value after it has been cleared: scalars become zero or empty, keyed
containers lose their entries, optionals become absent, a record has the cells behind
its declared names cleared, and a sequence its first element. -/
def cleared : Host → Host
  | .string _ => .string ""
  | .integer _ => .integer 0
  | .boolean _ => .boolean false
  | .bytes _ => .bytes []
  | .record layout cells => .record layout (clearedCells layout 0 cells)
  | .fixed layout cells => .fixed layout (clearedCells layout 0 cells)
  | .map kind entry _ => .map kind entry []
  | .sequence element [] => .sequence element []
  | .sequence element (item :: items) => .sequence element (item.cleared :: items)
  | .absent inner => .absent inner
  | .present inner _ => .absent inner

/-- The cells from number `i` on, after those behind a declared name have been cleared. -/
def clearedCells (layout : Layout) (i : Nat) : List Host → List Host
  | [] => []
  | cell :: cells =>
    (if layout.reaches i then cell.cleared else cell) :: clearedCells layout (i + 1) cells

end

end Host

/-! ## §7. What reading gives. -/

/-- The value that a path reads. -/
inductive Value where
  | string (text : String)
  | integer (value : Int64)
  | boolean (value : Bool)
  | bytes (content : List UInt8)
  /-- The path ended at a record or a keyed container. -/
  | composite (kind : Host.Kind) (typeName : String)
  deriving Repr, DecidableEq

/-- The text of a value. -/
def Value.text : Value → String
  | .string text => text
  | .integer value => Numeral.write value
  | .boolean true => "true"
  | .boolean false => "false"
  | .bytes content => Utf8.text content
  | .composite kind typeName => s!"[{kind.name} {typeName}]"

end RuleScript
