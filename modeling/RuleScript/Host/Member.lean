/-
  RuleScript.Host.Member
  ──────────────────────
  **The parts of one host value, by their exact names.**

  What a program that embeds scripts does with its values directly, without a
  path: here a name has to be spelled exactly as it is declared or stored.
-/
import RuleScript.Host.Path

namespace RuleScript.Host

/-- The field or entry with exactly this name. -/
def member? (h : Host) (name : String) : Option Host :=
  match h with
  | .record layout cells => (layout.cell? name).bind (cells[·]?)
  | .fixed layout cells => (layout.cell? name).bind (cells[·]?)
  | .map _ _ entries => entries.lookup name
  | _ => none

/-- Makes an entry of a text and puts it under exactly this key; a keyed container
with fixed keys takes none. -/
def putEntry (h : Host) (key text : String) : Except PathError Host :=
  match h with
  | .map kind entry entries =>
    match entry.make text with
    | .ok host => .ok (.map kind entry (Sorted.put key host entries))
    | .error fault => .error (.notInteger text fault)
  | _ => .error (.notConstructible key)

/-- The map without its entry under exactly this key, if it has one. -/
def dropEntry? (h : Host) (key : String) : Option Host :=
  match h with
  | .map kind entry entries =>
    if (entries.lookup key).isSome then some (.map kind entry (Sorted.drop key entries))
    else none
  | _ => none

/-- What a present optional holds. -/
def content? (h : Host) : Option Host :=
  match h with
  | .present _ content => some content
  | _ => none

/-- The optional, filled with an empty value where it is absent. -/
def fill (catalog : Catalog) (h : Host) : Except PathError Host :=
  match h with
  | .absent inner =>
    match inner.empty? catalog with
    | some content => .ok (.present inner content)
    | none => .error (.notConstructible inner.name)
  | h => .ok h

/-- How many elements a sequence has. -/
def size? (h : Host) : Option Nat :=
  match h with
  | .sequence _ items => some items.length
  | _ => none

end RuleScript.Host
