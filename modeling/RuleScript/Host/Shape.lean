/-
  RuleScript.Host.Shape
  ─────────────────────
  **What kinds and types of host values there are.**

  A script sees a host value as one of eight kinds.  A type says more: of what
  type the elements of a sequence are, for instance.  A type that is built from
  others shows its parts in its name, which appears in messages.
-/

namespace RuleScript.Host

/-! ## §1. Kinds. -/

/-- The kind of a host value. -/
inductive Kind where
  | string
  | integer
  | boolean
  | bytes
  | record
  | keyed
  | sequence
  | optional
  deriving Repr, DecidableEq

/-- The name of a kind in messages. -/
def Kind.name : Kind → String
  | .string => "string"
  | .integer => "integer"
  | .boolean => "boolean"
  | .bytes => "bytes"
  | .record => "record"
  | .keyed => "keyed container"
  | .sequence => "indexed container"
  | .optional => "optional"

/-! ## §2. Types. -/

/-- What a map holds. -/
inductive EntryType where
  | string
  | integer
  | boolean
  | strings
  deriving Repr, DecidableEq

/-- Whether a map lists its keys in order.  A hashed map lists them in an order of its own, which
may change whenever one is put in; here a new one goes in front of the first greater one. -/
inductive MapKind where
  | ordered
  | hashed
  deriving Repr, DecidableEq

/-- The type of a host value; records are known by name. -/
inductive Shape where
  | string
  | integer
  | boolean
  | bytes
  | record (name : String)
  | map (kind : MapKind) (entry : EntryType)
  | sequence (element : Shape)
  | optional (inner : Shape)
  deriving Repr, DecidableEq

/-- The type of what a map holds. -/
def EntryType.shape : EntryType → Shape
  | .string => .string
  | .integer => .integer
  | .boolean => .boolean
  | .strings => .sequence .string

/-- The name of the type of what a map holds. -/
def EntryType.name : EntryType → String
  | .string => "String"
  | .integer => "i64"
  | .boolean => "bool"
  | .strings => "Vec<String>"

/-- The name of a kind of map. -/
def MapKind.name : MapKind → String
  | .ordered => "BTreeMap"
  | .hashed => "HashMap"

/-- The name of a type in messages. -/
def Shape.name : Shape → String
  | .string => "String"
  | .integer => "i64"
  | .boolean => "bool"
  | .bytes => "Vec<u8>"
  | .record name => name
  | .map kind entry => s!"{kind.name}<String, {entry.name}>"
  | .sequence element => s!"Vec<{element.name}>"
  | .optional inner => s!"Option<{inner.name}>"

theorem EntryType.name_shape (entry : EntryType) : entry.shape.name = entry.name := by
  cases entry <;> rfl

end RuleScript.Host
