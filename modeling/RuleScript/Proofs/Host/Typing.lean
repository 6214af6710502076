/-
  RuleScript.Proofs.Host.Typing
  ─────────────────────────────
  **Types of host values.**

  A value shows its own type: a sequence says what it is a sequence of, and a record
  goes by its name.  What the parts of a record are is declared apart from it.  A
  value is well typed if all its parts are of the types that are declared for them;
  the host program builds such values only, and scripts keep them so.

  Main results:
    • `Writes.shape_eq` / `Clears.shape_eq` — a value that is written to or cleared
      keeps its own type.
    • `Writes.typed` / `Clears.typed` — and stays well typed in all its parts.
-/
import RuleScript.Proofs.Host.Effects
import RuleScript.Proofs.Host.Places

namespace RuleScript

/-! ## §1. Tables with a new entry. -/

/-- A name that a table does not have is put between two others. -/
theorem Sorted.perm_put {α : Type} {name : String} {table : List (String × α)}
    (hnew : ∀ entry ∈ table, entry.1 ≠ name) (value : α) :
    (put name value table).Perm ((name, value) :: table) := by
  induction table with
  | nil => exact .refl _
  | cons entry rest ih =>
      rw [put, if_neg (hnew entry List.mem_cons_self).symm]
      split
      · exact .refl _
      · have hrest := ih (fun other hother => hnew other (List.mem_cons_of_mem _ hother))
        exact (hrest.cons entry).trans (.swap ..)

namespace Host

/-! ## §2. Declared types. -/

/-- The type that a value shows. -/
def shape : Host → Shape
  | .string _ => .string
  | .integer _ => .integer
  | .boolean _ => .boolean
  | .bytes _ => .bytes
  | .record layout _ => .record layout.name
  | .fixed layout _ => .record layout.name
  | .map kind type _ => .map kind type
  | .sequence element _ => .sequence element
  | .absent inner => .optional inner
  | .present inner _ => .optional inner

/-- What is declared for a record type or a keyed container with fixed keys: its names, and
the types of its cells. -/
structure Declaration where
  keyed : Bool
  layout : Layout
  cells : List Shape
  deriving Repr, DecidableEq

/-- The declared types, by name. -/
abbrev Schema := String → Option Declaration

/-- All parts of the value are of their declared types.  A record has the fields that are
declared for its type, and no map has a key twice. -/
inductive Typed (schema : Schema) : Host → Prop
  | string (text : String) : Typed schema (.string text)
  | integer (value : Int64) : Typed schema (.integer value)
  | boolean (value : Bool) : Typed schema (.boolean value)
  | bytes (content : List UInt8) : Typed schema (.bytes content)
  | record {layout : Layout} {cells : List Host}
      (hdeclared : schema layout.name = some ⟨false, layout, cells.map shape⟩)
      (hcells : ∀ cell ∈ cells, Typed schema cell) : Typed schema (.record layout cells)
  | fixed {layout : Layout} {cells : List Host}
      (hdeclared : schema layout.name = some ⟨true, layout, cells.map shape⟩)
      (hcells : ∀ cell ∈ cells, Typed schema cell) : Typed schema (.fixed layout cells)
  | map {kind : MapKind} {type : EntryType} {entries : List (String × Host)}
      (hkeys : (entries.map (·.1)).Nodup)
      (hshapes : ∀ entry ∈ entries, entry.2.shape = type.shape)
      (hentries : ∀ entry ∈ entries, Typed schema entry.2) :
      Typed schema (.map kind type entries)
  | sequence {element : Shape} {items : List Host}
      (hshapes : ∀ item ∈ items, item.shape = element)
      (hitems : ∀ item ∈ items, Typed schema item) : Typed schema (.sequence element items)
  | absent (inner : Shape) : Typed schema (.absent inner)
  | present {inner : Shape} {content : Host} (hshape : content.shape = inner)
      (hcontent : Typed schema content) : Typed schema (.present inner content)

/-- The empty records are well typed. -/
def Catalog.Typed (schema : Schema) (catalog : Catalog) : Prop :=
  ∀ blueprint ∈ catalog, Host.Typed schema (.record blueprint.layout blueprint.cells)

/-! ## §3. Replaced parts. -/

section
variable {schema : Schema} {h new : Host} {path : List String} {d : Descent}

theorem Descends.shape_rebuild (hd : Descends h path d) (new : Host) :
    (d.rebuild new).shape = h.shape := by
  cases hd <;> rfl

theorem Descends.typed (hd : Descends h path d) (htyped : h.Typed schema) :
    d.child.Typed schema := by
  cases hd with
  | field hslot hcell =>
      cases htyped with
      | record _ hcells => exact hcells _ (List.mem_of_getElem? hcell)
  | fixedKey hslot hcell =>
      cases htyped with
      | fixed _ hcells => exact hcells _ (List.mem_of_getElem? hcell)
  | entry hentry =>
      cases htyped with
      | map _ _ hentries => exact hentries _ (List.mem_of_getElem? (entry?_eq_some_iff.1 hentry).2)
  | first =>
      cases htyped with
      | sequence _ hitems => exact hitems _ List.mem_cons_self
  | element hposition hitem =>
      cases htyped with
      | sequence _ hitems => exact hitems _ (List.mem_of_getElem? hitem)
  | content =>
      cases htyped with
      | present _ hcontent => exact hcontent

/-- Cells of which one holds another value of its type show the types that they showed. -/
theorem map_shape_set {cells : List Host} {i : Nat} {child : Host}
    (hcell : cells[i]? = some child) (hshape : new.shape = child.shape) :
    (cells.set i new).map shape = cells.map shape := by
  obtain ⟨hlt, hget⟩ := List.getElem?_eq_some_iff.1 hcell
  have hlt' : i < (cells.map shape).length := by rwa [List.length_map]
  have hold : (cells.map shape)[i] = new.shape := by rw [List.getElem_map, hget, hshape]
  rw [List.map_set, ← hold, List.set_getElem_self]

/-- What holds of all elements holds of all after one has been replaced by another of which
it holds. -/
theorem forall_mem_set {α : Type} {P : α → Prop} {items : List α} {new : α}
    (hall : ∀ item ∈ items, P item) (hnew : P new) (i : Nat) :
    ∀ item ∈ items.set i new, P item := by
  intro item hmem
  rcases List.mem_or_eq_of_mem_set hmem with hold | rfl
  · exact hall item hold
  · exact hnew

/-- A value stays well typed when a part gives way to another of the same type. -/
theorem Descends.typed_rebuild (hd : Descends h path d) (htyped : h.Typed schema)
    (hshape : new.shape = d.child.shape) (hnew : new.Typed schema) :
    (d.rebuild new).Typed schema := by
  cases hd with
  | field hslot hcell =>
      cases htyped with
      | record hdeclared hcells =>
          rw [← map_shape_set hcell hshape] at hdeclared
          exact .record hdeclared (forall_mem_set hcells hnew _)
  | fixedKey hslot hcell =>
      cases htyped with
      | fixed hdeclared hcells =>
          rw [← map_shape_set hcell hshape] at hdeclared
          exact .fixed hdeclared (forall_mem_set hcells hnew _)
  | entry hentry =>
      cases htyped with
      | map hkeys hshapes hentries =>
          have hold := (entry?_eq_some_iff.1 hentry).2
          have hchild := hshapes _ (List.mem_of_getElem? hold)
          refine .map ?_ (forall_mem_set hshapes (hshape.trans hchild) _)
            (forall_mem_set hentries hnew _)
          rw [map_fst_set hold]
          exact hkeys
  | @first _ item items =>
      cases htyped with
      | sequence hshapes hitems =>
          have hitem := hshapes item List.mem_cons_self
          exact .sequence (forall_mem_set hshapes (hshape.trans hitem) 0)
            (forall_mem_set hitems hnew 0)
  | element hposition hitem =>
      cases htyped with
      | sequence hshapes hitems =>
          have hchild := hshapes _ (List.mem_of_getElem? hitem)
          exact .sequence (forall_mem_set hshapes (hshape.trans hchild) _)
            (forall_mem_set hitems hnew _)
  | content =>
      cases htyped with
      | present hcontent _ => exact .present (hshape.trans hcontent) hnew

end

/-! ## §4. New values. -/

/-- The empty value of a type is of that type. -/
theorem shape_of_empty? {catalog : Catalog} {inner : Shape} {content : Host}
    (hempty : inner.empty? catalog = some content) : content.shape = inner := by
  cases inner with
  | map kind type =>
      cases hempty
      rfl
  | record name =>
      obtain ⟨blueprint, hfind, rfl⟩ := Option.map_eq_some_iff.1 hempty
      have hname := List.find?_some hfind
      exact congrArg Shape.record (beq_iff_eq.1 hname)
  | sequence element =>
      obtain ⟨item, hitem, rfl⟩ := Option.map_eq_some_iff.1 hempty
      rfl
  | string | integer | boolean | bytes | optional => cases hempty

theorem typed_map_nil (schema : Schema) (kind : MapKind) (type : EntryType) :
    (Host.map kind type []).Typed schema :=
  .map List.nodup_nil (List.forall_mem_nil _) (List.forall_mem_nil _)

theorem Catalog.Typed.empty? {schema : Schema} {catalog : Catalog}
    (hcatalog : catalog.Typed schema) {inner : Shape} {content : Host}
    (hempty : inner.empty? catalog = some content) : content.Typed schema := by
  refine empty?_induction (typed_map_nil schema) hcatalog ?_ hempty
  intro element item hitem htyped
  exact .sequence (List.forall_mem_singleton.2 (shape_of_empty? hitem))
    (List.forall_mem_singleton.2 htyped)

/-- A map stays well typed when it gets an entry under a new key. -/
theorem Typed.put {schema : Schema} {kind : MapKind} {type : EntryType}
    {entries : List (String × Host)} {segment : String} {new : Host}
    (htyped : Typed schema (.map kind type entries)) (hnone : entry? entries segment = none)
    (hshape : new.shape = type.shape) (hnew : new.Typed schema) :
    Typed schema (.map kind type (Sorted.put segment new entries)) := by
  have hne := ne_of_entry?_none hnone
  have hperm := Sorted.perm_put hne new
  cases htyped with
  | map hkeys hshapes hentries =>
      refine .map ?_ ?_ ?_
      · refine (hperm.map (·.1)).nodup_iff.2 (List.nodup_cons.2 ⟨?_, hkeys⟩)
        intro hmem
        obtain ⟨entry, hentry, hkey⟩ := List.mem_map.1 hmem
        exact hne entry hentry hkey
      · intro entry hmem
        rcases List.mem_cons.1 (hperm.mem_iff.1 hmem) with rfl | hold
        · exact hshape
        · exact hshapes entry hold
      · intro entry hmem
        rcases List.mem_cons.1 (hperm.mem_iff.1 hmem) with rfl | hold
        · exact hnew
        · exact hentries entry hold

/-- The type of a scalar of each kind. -/
def Kind.scalarShape? : Kind → Option Shape
  | .string => some .string
  | .integer => some .integer
  | .boolean => some .boolean
  | .bytes => some .bytes
  | _ => none

/-- A scalar is of the type of its kind. -/
theorem shape_of_scalar {h : Host} {kind : Kind}
    (hscalar : h.value?.bind Value.scalar? = some kind) : kind.scalarShape? = some h.shape := by
  cases h with
  | string | integer | boolean | bytes =>
      cases hscalar
      rfl
  | record | fixed | map | sequence | absent | present => cases hscalar

/-- A scalar has no parts that could be of a wrong type. -/
theorem typed_of_scalar (schema : Schema) {h : Host} {kind : Kind}
    (hscalar : h.value?.bind Value.scalar? = some kind) : h.Typed schema := by
  cases h with
  | string text => exact .string text
  | integer value => exact .integer value
  | boolean value => exact .boolean value
  | bytes content => exact .bytes content
  | record | fixed | map | sequence | absent | present => cases hscalar

/-- An entry that a text makes is of the type that the map holds. -/
theorem typed_of_make (schema : Schema) {type : EntryType} {text : String} {new : Host}
    (hmake : type.make text = .ok new) : new.shape = type.shape ∧ new.Typed schema := by
  rcases make_cases hmake with ⟨value, hvalue, hcoerces, hlist⟩ | ⟨rfl, rfl⟩
  · have hscalar := scalar_of_assigned hvalue hcoerces
    refine ⟨Option.some.inj ?_, typed_of_scalar schema hscalar⟩
    rw [← shape_of_scalar hscalar]
    cases type with
    | string | integer | boolean => rfl
    | strings => exact absurd rfl hlist
  · refine ⟨rfl, .sequence ?_ ?_⟩
    · intro item hmem
      rw [List.mem_singleton.1 hmem]
      rfl
    · intro item hmem
      rw [List.mem_singleton.1 hmem]
      exact .string text

/-! ## §5. Writes. -/

section
variable {schema : Schema} {catalog : Catalog} {text : String} {h after : Host}
  {path : List String}

/-- **A value that is written to keeps its own type.** -/
theorem Writes.shape_eq (hwrites : Writes catalog text h path after) : after.shape = h.shape := by
  cases hwrites with
  | into hd => exact hd.shape_rebuild _
  | filled hempty => rfl
  | assigned hold hnew hcoerces =>
      have hscalar := shape_of_scalar (scalar_of_assigned hnew hcoerces)
      rw [shape_of_scalar hold] at hscalar
      exact (Option.some.inj hscalar).symm
  | created hnone hmake => rfl
  | refused => rfl

/-- **A value that is written to stays well typed.** -/
theorem Writes.typed (hwrites : Writes catalog text h path after)
    (hcatalog : catalog.Typed schema) (htyped : h.Typed schema) : after.Typed schema := by
  induction hwrites with
  | into hd hrest ih => exact hd.typed_rebuild htyped hrest.shape_eq (ih (hd.typed htyped))
  | filled hempty hrest ih =>
      exact .present (hrest.shape_eq.trans (shape_of_empty? hempty)) (ih (hcatalog.empty? hempty))
  | assigned hold hnew hcoerces => exact typed_of_scalar schema (scalar_of_assigned hnew hcoerces)
  | created hnone hmake =>
      obtain ⟨hshape, hnew⟩ := typed_of_make schema hmake
      exact htyped.put hnone hshape hnew
  | refused => exact htyped

end

/-! ## §6. Clears. -/

theorem shape_cleared (h : Host) : h.cleared.shape = h.shape := by
  unfold cleared
  split <;> rfl

theorem map_shape_clearedCells (layout : Layout) (n : Nat) (cells : List Host) :
    (clearedCells layout n cells).map shape = cells.map shape := by
  induction cells generalizing n with
  | nil => rfl
  | cons cell cells ih =>
      rw [clearedCells, List.map_cons, List.map_cons, ih]
      split
      · rw [shape_cleared]
      · rfl

/-- What holds of every cell, cleared or not, holds of all of them afterwards. -/
theorem forall_mem_clearedCells {P : Host → Prop} {cells : List Host}
    (hall : ∀ cell ∈ cells, P cell) (hcleared : ∀ cell ∈ cells, P cell.cleared)
    (layout : Layout) (n : Nat) : ∀ cell ∈ clearedCells layout n cells, P cell := by
  intro cell hmem
  obtain ⟨i, hi⟩ := List.mem_iff_getElem?.1 hmem
  rw [getElem?_clearedCells] at hi
  obtain ⟨old, hold, rfl⟩ := Option.map_eq_some_iff.1 hi
  have hmem := List.mem_of_getElem? hold
  split
  · exact hcleared old hmem
  · exact hall old hmem

section
variable {schema : Schema} {h after : Host} {path : List String}

theorem Typed.cleared (htyped : h.Typed schema) : h.cleared.Typed schema := by
  induction htyped with
  | string text =>
      rw [Host.cleared]
      exact .string ""
  | integer value =>
      rw [Host.cleared]
      exact .integer 0
  | boolean value =>
      rw [Host.cleared]
      exact .boolean false
  | bytes content =>
      rw [Host.cleared]
      exact .bytes []
  | record hdeclared hcells ih =>
      rw [Host.cleared]
      rw [← map_shape_clearedCells _ 0] at hdeclared
      exact .record hdeclared (forall_mem_clearedCells hcells ih _ 0)
  | fixed hdeclared hcells ih =>
      rw [Host.cleared]
      rw [← map_shape_clearedCells _ 0] at hdeclared
      exact .fixed hdeclared (forall_mem_clearedCells hcells ih _ 0)
  | map hkeys hshapes hentries ih =>
      rw [Host.cleared]
      exact typed_map_nil schema _ _
  | @sequence element items hshapes hitems ih =>
      cases items with
      | nil =>
          rw [Host.cleared]
          exact .sequence hshapes hitems
      | cons item rest =>
          rw [Host.cleared]
          have hshape := (shape_cleared item).trans (hshapes item List.mem_cons_self)
          exact .sequence (forall_mem_set hshapes hshape 0)
            (forall_mem_set hitems (ih item List.mem_cons_self) 0)
  | absent inner =>
      rw [Host.cleared]
      exact .absent inner
  | present hshape hcontent ih =>
      rw [Host.cleared]
      exact .absent _

/-- A map stays well typed when it loses an entry. -/
theorem Typed.eraseIdx {kind : MapKind} {type : EntryType} {entries : List (String × Host)}
    (htyped : Typed schema (.map kind type entries)) (i : Nat) :
    Typed schema (.map kind type (entries.eraseIdx i)) := by
  have hsub : (entries.eraseIdx i).Sublist entries := List.eraseIdx_sublist entries i
  cases htyped with
  | map hkeys hshapes hentries =>
      exact .map ((hsub.map (·.1)).nodup hkeys) (fun entry hmem => hshapes entry (hsub.mem hmem))
        (fun entry hmem => hentries entry (hsub.mem hmem))

/-- What is left in a map that has lost an entry was in it before. -/
theorem Typed.part?_of_eraseIdx {kind : MapKind} {type : EntryType}
    {entries : List (String × Host)} {i : Nat} {step : Step} {child : Host}
    (htyped : Typed schema (.map kind type entries))
    (hchild : (Host.map kind type (entries.eraseIdx i)).part? step = some child) :
    (Host.map kind type entries).part? step = some child := by
  cases step with
  | key key =>
      cases htyped with
      | map hkeys _ _ =>
          have hmem : (key, child) ∈ entries :=
            (List.eraseIdx_sublist entries i).mem (mem_of_lookup hchild)
          exact lookup_of_mem hkeys hmem
  | root | field | index | content => cases hchild

/-- **A value that is cleared keeps its own type.** -/
theorem Clears.shape_eq (hclears : Clears h path after) : after.shape = h.shape := by
  cases hclears with
  | into hd => exact hd.shape_rebuild _
  | reset hvalue => exact shape_cleared h
  | emptied => rfl
  | removed hentry => rfl
  | kept => rfl

/-- **A value that is cleared stays well typed.** -/
theorem Clears.typed (hclears : Clears h path after) (htyped : h.Typed schema) :
    after.Typed schema := by
  induction hclears with
  | into hd hrest ih => exact hd.typed_rebuild htyped hrest.shape_eq (ih (hd.typed htyped))
  | reset hvalue => exact htyped.cleared
  | emptied => exact .absent _
  | removed hentry => exact htyped.eraseIdx _
  | kept => exact htyped

end

end Host

end RuleScript
