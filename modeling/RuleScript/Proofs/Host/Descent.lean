/-
  RuleScript.Proofs.Host.Descent
  ──────────────────────────────
  **One step of a path into a host value.**

  Reading, writing and clearing go down a path in the same way: into a field, into
  an entry, into an element, or into what an optional holds.  A descent is one such
  step, with what it leads to, what is left of the path, and how the value is put
  together again around another part.  Whatever is said of a path is then said of
  one descent, and carried along the path by induction.

  Main results:
    • `Descends.unique` — a path goes down in one way at most.
    • `Descends.rebuild_child` — a value is made of its parts as they are.
    • `Descends.rebuild_self` / `Descends.rebuild_of_ne` — after one part has been
      replaced, the same step finds the new one, and the other steps find what they
      found.
    • `Descends.rebuild_cases` — the same where names may share what they stand for.
    • `Descends.rebuild_comm` — two parts may be replaced in either order.
    • `descent_induction` — induction along a path.
    • `Descends.read_eq` / `read_cases` — reading, one descent at a time.
-/
import RuleScript.Proofs.Host.Parts

namespace RuleScript.Host

/-! ## §1. Descents. -/

/-- One step of the way to a part of a host value. -/
inductive Step where
  /-- Into the value of a root. -/
  | root (name : String)
  | field (name : String)
  | key (key : String)
  | index (position : Nat)
  /-- Into what an optional holds. -/
  | content
  deriving Repr, DecidableEq

/-- The declared name that a segment names, and the cell behind it. -/
def Layout.slot? (layout : Layout) (segment : String) : Option (String × Nat) :=
  (layout.slots.find? fun slot => Text.sameName slot.1 segment).bind fun slot =>
    slot.2.map (slot.1, ·)

/-- One step into a host value: the part it leads to, what is left of the path, and
the host value that another part in its place would make. -/
structure Descent where
  step : Step
  child : Host
  rest : List String
  rebuild : Host → Host

/-- How a path goes down into a host value. -/
inductive Descends : Host → List String → Descent → Prop
  | field {layout : Layout} {cells : List Host} {segment name : String} {path : List String}
      {i : Nat} {child : Host} (hslot : layout.slot? segment = some (name, i))
      (hcell : cells[i]? = some child) :
      Descends (.record layout cells) (segment :: path)
        ⟨.field name, child, path, fun new => .record layout (cells.set i new)⟩
  | fixedKey {layout : Layout} {cells : List Host} {segment name : String}
      {path : List String} {i : Nat} {child : Host}
      (hslot : layout.slot? segment = some (name, i)) (hcell : cells[i]? = some child) :
      Descends (.fixed layout cells) (segment :: path)
        ⟨.key name, child, path, fun new => .fixed layout (cells.set i new)⟩
  | entry {kind : MapKind} {type : EntryType} {entries : List (String × Host)}
      {segment key : String} {path : List String} {i : Nat} {child : Host}
      (hentry : entry? entries segment = some (i, key, child)) :
      Descends (.map kind type entries) (segment :: path)
        ⟨.key key, child, path, fun new => .map kind type (entries.set i (key, new))⟩
  /-- A path that has come to its end means the first element of a sequence. -/
  | first {element : Shape} {item : Host} {items : List Host} :
      Descends (.sequence element (item :: items)) []
        ⟨.index 0, item, [], fun new => .sequence element (new :: items)⟩
  | element {element : Shape} {items : List Host} {segment : String} {path : List String}
      {i : Nat} {item : Host} (hposition : position? segment = some i)
      (hitem : items[i]? = some item) :
      Descends (.sequence element items) (segment :: path)
        ⟨.index i, item, path, fun new => .sequence element (items.set i new)⟩
  | content {inner : Shape} {content : Host} {path : List String} :
      Descends (.present inner content) path
        ⟨.content, content, path, fun new => .present inner new⟩

/-- What is read where a path ends, unless it goes on into a first element or into
what an optional holds. -/
def value? : Host → Option Value
  | .string text => some (.string text)
  | .integer value => some (.integer value)
  | .boolean value => some (.boolean value)
  | .bytes content => some (.bytes content)
  | .record layout _ => some (.composite .record layout.name)
  | .fixed layout _ => some (.composite .keyed layout.name)
  | .map kind entry _ => some (.composite .keyed (Shape.map kind entry).name)
  | .sequence _ _ => none
  | .absent _ => none
  | .present _ _ => none

/-! ## §2. Declared names. -/

theorem Layout.slot?_eq_some_iff {layout : Layout} {segment name : String} {i : Nat} :
    layout.slot? segment = some (name, i) ↔
      (layout.slots.find? fun slot => Text.sameName slot.1 segment) = some (name, some i) := by
  unfold Layout.slot?
  constructor
  · intro h
    obtain ⟨⟨name', cell⟩, hfind, h⟩ := Option.bind_eq_some_iff.1 h
    obtain ⟨j, hcell, he⟩ := Option.map_eq_some_iff.1 h
    cases he
    cases hcell
    exact hfind
  · intro h
    rw [h]
    rfl

/-- The slot that a segment names is the one behind its cell. -/
theorem Layout.find?_eq_some_iff {layout : Layout} {segment : String} {i : Nat} :
    layout.find? segment = some i ↔ ∃ name, layout.slot? segment = some (name, i) := by
  unfold Layout.find?
  constructor
  · intro h
    obtain ⟨⟨name, cell⟩, hfind, hcell⟩ := Option.bind_eq_some_iff.1 h
    cases hcell
    exact ⟨name, Layout.slot?_eq_some_iff.2 hfind⟩
  · rintro ⟨name, h⟩
    rw [Layout.slot?_eq_some_iff.1 h]
    rfl

theorem Layout.child?_of_slot? {layout : Layout} {cells : List Host} {segment name : String}
    {i : Nat} {child : Host} (hslot : layout.slot? segment = some (name, i))
    (hcell : cells[i]? = some child) : layout.child? cells segment = some (i, child) :=
  Layout.child?_eq_some_iff.2 ⟨Layout.find?_eq_some_iff.2 ⟨name, hslot⟩, hcell⟩

theorem Layout.exists_slot? {layout : Layout} {cells : List Host} {segment : String}
    {i : Nat} {child : Host} (h : layout.child? cells segment = some (i, child)) :
    ∃ name, layout.slot? segment = some (name, i) ∧ cells[i]? = some child := by
  obtain ⟨hfind, hcell⟩ := Layout.child?_eq_some_iff.1 h
  obtain ⟨name, hslot⟩ := Layout.find?_eq_some_iff.1 hfind
  exact ⟨name, hslot, hcell⟩

/-- A segment names the declared name of its slot. -/
theorem Layout.sameName_slot {layout : Layout} {segment name : String} {i : Nat}
    (h : layout.slot? segment = some (name, i)) : Text.sameName name segment = true := by
  have hfound := List.find?_some (Layout.slot?_eq_some_iff.1 h)
  exact hfound

/-- Segments that differ in case at most name the same field. -/
theorem Layout.slot?_congr {segment segment' : String}
    (h : Text.sameName segment segment' = true) (layout : Layout) :
    layout.slot? segment = layout.slot? segment' := by
  unfold Layout.slot?
  simp only [Text.sameName_congr h]

/-- Segments that name the same field mean the same cell. -/
theorem Layout.slot?_eq_of_name {layout : Layout} {segment segment' name : String} {i j : Nat}
    (h : layout.slot? segment = some (name, i)) (h' : layout.slot? segment' = some (name, j)) :
    i = j := by
  have hname := Layout.sameName_slot h
  rw [Text.sameName_comm] at hname
  have hsame : Text.sameName segment segment' = true :=
    Text.sameName_trans hname (Layout.sameName_slot h')
  rw [Layout.slot?_congr hsame, h'] at h
  cases h
  rfl

/-- No two declared names of a layout share a cell. -/
def Layout.Independent (layout : Layout) : Prop := (layout.slots.filterMap (·.2)).Nodup

instance (layout : Layout) : Decidable layout.Independent :=
  inferInstanceAs (Decidable (List.Nodup _))

/-- Slots that share a cell, where no two do, are one. -/
theorem name_eq_of_cell {slots : List (String × Option Nat)} {name name' : String} {i : Nat}
    (h : (slots.filterMap (·.2)).Nodup) (hmem : (name, some i) ∈ slots)
    (hmem' : (name', some i) ∈ slots) : name = name' := by
  induction slots with
  | nil => cases hmem
  | cons slot slots ih =>
      -- Where one of the two comes first, its cell is not found again behind it.
      rcases List.mem_cons.1 hmem with rfl | htail
      · rcases List.mem_cons.1 hmem' with he | htail'
        · cases he
          rfl
        · replace h : (i :: slots.filterMap (·.2)).Nodup := h
          exact ((List.nodup_cons.1 h).1 (List.mem_filterMap.2 ⟨_, htail', rfl⟩)).elim
      rcases List.mem_cons.1 hmem' with rfl | htail'
      · replace h : (i :: slots.filterMap (·.2)).Nodup := h
        exact ((List.nodup_cons.1 h).1 (List.mem_filterMap.2 ⟨_, htail, rfl⟩)).elim
      · have hrest : List.Sublist (slots.filterMap (·.2)) ((slot :: slots).filterMap (·.2)) :=
          (List.sublist_cons_self _ _).filterMap _
        exact ih (h.sublist hrest) htail htail'

/-- In a layout without shared cells, fields of different names have different cells. -/
theorem Layout.Independent.cell_ne {layout : Layout} (h : layout.Independent)
    {segment segment' name name' : String} {i j : Nat}
    (hslot : layout.slot? segment = some (name, i))
    (hslot' : layout.slot? segment' = some (name', j)) (hne : name ≠ name') : i ≠ j := by
  have hmem := List.mem_of_find?_eq_some (Layout.slot?_eq_some_iff.1 hslot)
  have hmem' := List.mem_of_find?_eq_some (Layout.slot?_eq_some_iff.1 hslot')
  rintro rfl
  exact hne (name_eq_of_cell h hmem hmem')

/-- When one cell is replaced, a field of another name has the cell that it had, or it shares
the replaced one. -/
theorem Layout.getElem?_set_cell {layout : Layout} {segment segment' name name' : String}
    {i j : Nat} {cells : List Host} {child child' : Host}
    (hslot : layout.slot? segment = some (name, i)) (hcell : cells[i]? = some child)
    (hslot' : layout.slot? segment' = some (name', j)) (hcell' : cells[j]? = some child')
    (hne : name' ≠ name) (new : Host) :
    (cells.set i new)[j]? = some child' ∨
      (¬layout.Independent ∧ child' = child ∧ (cells.set i new)[j]? = some new) := by
  by_cases hij : i = j
  · subst hij
    rw [hcell] at hcell'
    cases hcell'
    exact .inr ⟨fun hlayout => hlayout.cell_ne hslot' hslot hne rfl, rfl,
      List.getElem?_set_self (List.getElem?_eq_some_iff.1 hcell).1⟩
  · exact .inl (by rwa [List.getElem?_set_ne hij])

/-- All records and containers with fixed keys in a value have independent fields. -/
inductive Independent : Host → Prop
  | string (text : String) : Independent (.string text)
  | integer (value : Int64) : Independent (.integer value)
  | boolean (value : Bool) : Independent (.boolean value)
  | bytes (content : List UInt8) : Independent (.bytes content)
  | record {layout : Layout} {cells : List Host} (hlayout : layout.Independent)
      (hcells : ∀ cell ∈ cells, Independent cell) : Independent (.record layout cells)
  | fixed {layout : Layout} {cells : List Host} (hlayout : layout.Independent)
      (hcells : ∀ cell ∈ cells, Independent cell) : Independent (.fixed layout cells)
  | map {kind : MapKind} {type : EntryType} {entries : List (String × Host)}
      (hentries : ∀ entry ∈ entries, Independent entry.2) : Independent (.map kind type entries)
  | sequence {element : Shape} {items : List Host}
      (hitems : ∀ item ∈ items, Independent item) : Independent (.sequence element items)
  | absent (inner : Shape) : Independent (.absent inner)
  | present {inner : Shape} {content : Host} (hcontent : Independent content) :
      Independent (.present inner content)

/-- The same for the empty records. -/
def Catalog.Independent (catalog : Catalog) : Prop :=
  ∀ blueprint ∈ catalog, (Host.record blueprint.layout blueprint.cells).Independent

/-- What holds of maps without entries, of the empty records, and of sequences of one empty
element if it holds of that, holds of all empty values. -/
theorem empty?_induction {catalog : Catalog} {P : Host → Prop}
    (hmap : ∀ kind type, P (.map kind type []))
    (hrecord : ∀ blueprint ∈ catalog, P (.record blueprint.layout blueprint.cells))
    (hsequence : ∀ element item, element.empty? catalog = some item → P item →
      P (.sequence element [item]))
    {inner : Shape} {content : Host} (hempty : inner.empty? catalog = some content) :
    P content := by
  induction inner generalizing content with
  | map kind type =>
      cases hempty
      exact hmap kind type
  | record name =>
      obtain ⟨blueprint, hfind, rfl⟩ := Option.map_eq_some_iff.1 hempty
      exact hrecord blueprint (List.mem_of_find?_eq_some hfind)
  | sequence element ih =>
      obtain ⟨item, hitem, rfl⟩ := Option.map_eq_some_iff.1 hempty
      exact hsequence element item hitem (ih hitem)
  | string | integer | boolean | bytes | optional => cases hempty

theorem Catalog.Independent.empty? {catalog : Catalog} (hcatalog : catalog.Independent)
    {inner : Shape} {content : Host} (hempty : inner.empty? catalog = some content) :
    content.Independent := by
  refine empty?_induction ?_ hcatalog ?_ hempty
  · intro kind type
    exact .map (List.forall_mem_nil _)
  · intro element item _ hitem
    exact .sequence (List.forall_mem_singleton.2 hitem)

/-! ## §3. One descent. -/

section
variable {h : Host} {path : List String} {d e : Descent}

/-- **A path goes down in one way at most.** -/
theorem Descends.unique (hd : Descends h path d) (he : Descends h path e) : d = e := by
  cases hd with
  | field hslot hcell =>
      cases he with
      | field hslot' hcell' =>
          rw [hslot] at hslot'
          cases hslot'
          rw [hcell] at hcell'
          cases hcell'
          rfl
  | fixedKey hslot hcell =>
      cases he with
      | fixedKey hslot' hcell' =>
          rw [hslot] at hslot'
          cases hslot'
          rw [hcell] at hcell'
          cases hcell'
          rfl
  | entry hentry =>
      cases he with
      | entry hentry' =>
          rw [hentry] at hentry'
          cases hentry'
          rfl
  | first =>
      cases he with
      | first => rfl
  | element hposition hitem =>
      cases he with
      | element hposition' hitem' =>
          rw [hposition] at hposition'
          cases hposition'
          rw [hitem] at hitem'
          cases hitem'
          rfl
  | content =>
      cases he with
      | content => rfl

/-- What is found where a path ends, and what a path goes into, exclude each other. -/
theorem Descends.value?_eq_none (hd : Descends h [] d) : h.value? = none := by
  cases hd <;> rfl

/-- A value with another part reads the same where a path ends. -/
theorem Descends.value?_rebuild (hd : Descends h path d) (new : Host) :
    (d.rebuild new).value? = h.value? := by
  cases hd <;> rfl

theorem Descends.independent (hd : Descends h path d) (hi : h.Independent) :
    d.child.Independent := by
  cases hd with
  | field hslot hcell =>
      cases hi with
      | record _ hcells => exact hcells _ (List.mem_of_getElem? hcell)
  | fixedKey hslot hcell =>
      cases hi with
      | fixed _ hcells => exact hcells _ (List.mem_of_getElem? hcell)
  | entry hentry =>
      cases hi with
      | map hentries => exact hentries _ (List.mem_of_getElem? (entry?_eq_some_iff.1 hentry).2)
  | first =>
      cases hi with
      | sequence hitems => exact hitems _ List.mem_cons_self
  | element hposition hitem =>
      cases hi with
      | sequence hitems => exact hitems _ (List.mem_of_getElem? hitem)
  | content =>
      cases hi with
      | present hcontent => exact hcontent

/-- What is left of the path gets shorter, or the part is of lower rank. -/
theorem Descends.decreases (hd : Descends h path d) :
    Prod.Lex (· < ·) (· < ·) (d.rest.length, d.child.rank) (path.length, h.rank) := by
  cases hd with
  | field | fixedKey | entry | element => exact .left _ _ (Nat.lt_succ_self _)
  | first => exact .right _ (rank_head_lt ..)
  | content => exact .right _ (rank_content_lt ..)

end

/-- **Induction along a path.**  What holds of a value and a path if it holds one
descent further on, and inside an absent optional once that is filled, holds of all. -/
theorem descent_induction (catalog : Catalog) {P : Host → List String → Prop}
    (hstep : ∀ h path, (∀ d, Descends h path d → P d.child d.rest) →
      (∀ inner content, h = .absent inner → inner.empty? catalog = some content →
        P content path) → P h path)
    (h : Host) (path : List String) : P h path := by
  refine hstep h path (fun d hd => ?_) (fun inner content habsent hempty => ?_)
  · exact descent_induction catalog hstep d.child d.rest
  · exact descent_induction catalog hstep content path
termination_by (path.length, h.rank)
decreasing_by
  · exact hd.decreases
  · rw [habsent]
    exact .right _ (rank_lt_of_empty? hempty)

/-! ## §4. Replaced parts. -/

section
variable {h : Host} {p q path : List String} {d e : Descent}

/-- With the part that is there, a value is put together again as it was. -/
theorem Descends.rebuild_child (hd : Descends h path d) : d.rebuild d.child = h := by
  have hset {α : Type} {items : List α} {i : Nat} {item : α} (hitem : items[i]? = some item) :
      items.set i item = items := by
    obtain ⟨hlt, rfl⟩ := List.getElem?_eq_some_iff.1 hitem
    exact List.set_getElem_self hlt
  cases hd with
  | field hslot hcell => exact congrArg (Host.record _) (hset hcell)
  | fixedKey hslot hcell => exact congrArg (Host.fixed _) (hset hcell)
  | entry hentry => exact congrArg (Host.map _ _) (hset (entry?_eq_some_iff.1 hentry).2)
  | first => rfl
  | element hposition hitem => exact congrArg (Host.sequence _) (hset hitem)
  | content => rfl

/-- The same step finds what has been put in the place of a part. -/
theorem Descends.rebuild_self (hd : Descends h path d) (new : Host) :
    ∃ e, Descends (d.rebuild new) path e ∧ e.step = d.step ∧ e.child = new ∧ e.rest = d.rest ∧
      ∀ other, e.rebuild other = d.rebuild other := by
  cases hd with
  | field hslot hcell =>
      have hlt := (List.getElem?_eq_some_iff.1 hcell).1
      refine ⟨_, .field hslot (List.getElem?_set_self hlt), rfl, rfl, rfl, ?_⟩
      intro other
      simp only [List.set_set]
  | fixedKey hslot hcell =>
      have hlt := (List.getElem?_eq_some_iff.1 hcell).1
      refine ⟨_, .fixedKey hslot (List.getElem?_set_self hlt), rfl, rfl, rfl, ?_⟩
      intro other
      simp only [List.set_set]
  | entry hentry =>
      refine ⟨_, .entry (entry?_set hentry new), rfl, rfl, rfl, ?_⟩
      intro other
      simp only [List.set_set]
  | first => exact ⟨_, .first, rfl, rfl, rfl, fun _ => rfl⟩
  | element hposition hitem =>
      have hlt := (List.getElem?_eq_some_iff.1 hitem).1
      refine ⟨_, .element hposition (List.getElem?_set_self hlt), rfl, rfl, rfl, ?_⟩
      intro other
      simp only [List.set_set]
  | content => exact ⟨_, .content, rfl, rfl, rfl, fun _ => rfl⟩

/-- Paths that take the same step come to the same part. -/
theorem Descends.eq_of_step (hd : Descends h p d) (he : Descends h q e)
    (hstep : e.step = d.step) : e.child = d.child ∧ ∀ new, e.rebuild new = d.rebuild new := by
  cases hd with
  | field hslot hcell =>
      cases he with
      | field hslot' hcell' =>
          cases hstep
          cases Layout.slot?_eq_of_name hslot hslot'
          rw [hcell] at hcell'
          cases hcell'
          exact ⟨rfl, fun _ => rfl⟩
  | fixedKey hslot hcell =>
      cases he with
      | fixedKey hslot' hcell' =>
          cases hstep
          cases Layout.slot?_eq_of_name hslot hslot'
          rw [hcell] at hcell'
          cases hcell'
          exact ⟨rfl, fun _ => rfl⟩
  | entry hentry =>
      cases he with
      | entry hentry' =>
          cases hstep
          have hfound := entry?_eq_of_key hentry hentry'
          rw [hentry, hentry'] at hfound
          cases hfound
          exact ⟨rfl, fun _ => rfl⟩
  | first =>
      cases he with
      | first => exact ⟨rfl, fun _ => rfl⟩
      | element hposition hitem =>
          cases hstep
          cases hitem
          exact ⟨rfl, fun _ => rfl⟩
  | element hposition hitem =>
      cases he with
      | first =>
          cases hstep
          cases hitem
          exact ⟨rfl, fun _ => rfl⟩
      | element hposition' hitem' =>
          cases hstep
          rw [hitem] at hitem'
          cases hitem'
          exact ⟨rfl, fun _ => rfl⟩
  | content =>
      cases he with
      | content => exact ⟨rfl, fun _ => rfl⟩

/-- A path that takes another step than the one to a replaced part finds what it found, or
the new part where two names share the cell of the old one. -/
theorem Descends.rebuild_other (hd : Descends h p d) (he : Descends h q e)
    (hstep : e.step ≠ d.step) (new : Host) :
    ∃ f, Descends (d.rebuild new) q f ∧ f.step = e.step ∧ f.rest = e.rest ∧
      (f.child = e.child ∨ (¬h.Independent ∧ e.child = d.child ∧ f.child = new)) := by
  cases hd with
  | @field layout cells _ name _ i child hslot hcell =>
      cases he with
      | @field _ _ _ name' _ j child' hslot' hcell' =>
          have hne : name' ≠ name := fun hname => hstep (by rw [hname])
          rcases Layout.getElem?_set_cell hslot hcell hslot' hcell' hne new with
            hsame | ⟨hshared, hold, hnew⟩
          · exact ⟨_, .field hslot' hsame, rfl, rfl, .inl rfl⟩
          · refine ⟨_, .field hslot' hnew, rfl, rfl, .inr ⟨?_, hold, rfl⟩⟩
            intro hi
            cases hi with
            | record hlayout _ => exact hshared hlayout
  | @fixedKey layout cells _ name _ i child hslot hcell =>
      cases he with
      | @fixedKey _ _ _ name' _ j child' hslot' hcell' =>
          have hne : name' ≠ name := fun hname => hstep (by rw [hname])
          rcases Layout.getElem?_set_cell hslot hcell hslot' hcell' hne new with
            hsame | ⟨hshared, hold, hnew⟩
          · exact ⟨_, .fixedKey hslot' hsame, rfl, rfl, .inl rfl⟩
          · refine ⟨_, .fixedKey hslot' hnew, rfl, rfl, .inr ⟨?_, hold, rfl⟩⟩
            intro hi
            cases hi with
            | fixed hlayout _ => exact hshared hlayout
  | entry hentry =>
      cases he with
      | entry hentry' =>
          obtain ⟨-, hsame⟩ := entry?_set_of_ne (entry?_eq_some_iff.1 hentry).2 hentry'
            (fun hkey => hstep (by rw [hkey])) new
          exact ⟨_, .entry hsame, rfl, rfl, .inl rfl⟩
  | @first _ item items =>
      cases he with
      | first => exact absurd rfl hstep
      | @element _ _ _ _ j item' hposition hitem =>
          have hne : 0 ≠ j := fun hzero => hstep (by rw [hzero])
          have hother : (new :: items)[j]? = some item' := by
            rw [← hitem, show new :: items = (item :: items).set 0 new from rfl,
              List.getElem?_set_ne hne]
          exact ⟨_, .element hposition hother, rfl, rfl, .inl rfl⟩
  | @element _ items _ _ i item hposition hitem =>
      cases he with
      | @first _ item' items' =>
          -- The first element is not the one that has been replaced.
          cases i with
          | zero => exact absurd rfl hstep
          | succ i => exact ⟨_, .first, rfl, rfl, .inl rfl⟩
      | @element _ _ _ _ j item' hposition' hitem' =>
          have hne : i ≠ j := fun hij => hstep (by rw [hij])
          exact ⟨_, .element hposition' (by rwa [List.getElem?_set_ne hne]), rfl, rfl, .inl rfl⟩
  | content =>
      cases he with
      | content => exact absurd rfl hstep

/-- **A part that has been replaced leaves the others in their places**: a path that
takes another step finds what it found. -/
theorem Descends.rebuild_of_ne (hi : h.Independent) (hd : Descends h p d)
    (he : Descends h q e) (hstep : e.step ≠ d.step) (new : Host) :
    ∃ f, Descends (d.rebuild new) q f ∧ f.step = e.step ∧ f.child = e.child ∧
      f.rest = e.rest := by
  obtain ⟨f, hf, hfstep, hrest, hchild | ⟨hshared, -, -⟩⟩ := hd.rebuild_other he hstep new
  · exact ⟨f, hf, hfstep, hchild, hrest⟩
  · exact absurd hi hshared

/-- **Two parts may be replaced in either order**: after the one has been replaced, the step
to the other finds what it found, and what comes of both is the same. -/
theorem Descends.rebuild_comm (hi : h.Independent) (hd : Descends h p d)
    (he : Descends h q e) (hstep : e.step ≠ d.step) (new new' : Host) :
    ∃ first second : Host → Host, Descends (d.rebuild new) q { e with rebuild := first } ∧
      Descends (e.rebuild new') p { d with rebuild := second } ∧ first new' = second new := by
  cases hd with
  | field hslot hcell =>
      cases he with
      | field hslot' hcell' =>
          cases hi with
          | record hlayout _ =>
              have hne := hlayout.cell_ne hslot hslot' (fun hname => hstep (by rw [hname]))
              refine ⟨_, _, .field hslot' ?_, .field hslot ?_, ?_⟩
              · rwa [List.getElem?_set_ne hne]
              · rwa [List.getElem?_set_ne hne.symm]
              · exact congrArg (Host.record _) (List.set_comm _ _ hne)
  | fixedKey hslot hcell =>
      cases he with
      | fixedKey hslot' hcell' =>
          cases hi with
          | fixed hlayout _ =>
              have hne := hlayout.cell_ne hslot hslot' (fun hname => hstep (by rw [hname]))
              refine ⟨_, _, .fixedKey hslot' ?_, .fixedKey hslot ?_, ?_⟩
              · rwa [List.getElem?_set_ne hne]
              · rwa [List.getElem?_set_ne hne.symm]
              · exact congrArg (Host.fixed _) (List.set_comm _ _ hne)
  | @entry _ _ _ _ key _ _ _ hentry =>
      cases he with
      | @entry _ _ _ _ key' _ _ _ hentry' =>
          have hkey : key' ≠ key := fun hkey => hstep (congrArg Step.key hkey)
          obtain ⟨hne, hfirst⟩ :=
            entry?_set_of_ne (entry?_eq_some_iff.1 hentry).2 hentry' hkey new
          obtain ⟨-, hsecond⟩ :=
            entry?_set_of_ne (entry?_eq_some_iff.1 hentry').2 hentry hkey.symm new'
          exact ⟨_, _, .entry hfirst, .entry hsecond,
            congrArg (Host.map _ _) (List.set_comm _ _ hne)⟩
  | first =>
      cases he with
      | first => exact absurd rfl hstep
      | @element _ _ _ _ j _ hposition hitem =>
          -- The other element stands behind the first one.
          cases j with
          | zero => exact absurd rfl hstep
          | succ j => exact ⟨_, _, .element hposition hitem, .first, rfl⟩
  | @element _ _ _ _ i _ hposition hitem =>
      cases he with
      | first =>
          cases i with
          | zero => exact absurd rfl hstep
          | succ i => exact ⟨_, _, .first, .element hposition hitem, rfl⟩
      | element hposition' hitem' =>
          have hne : i ≠ _ := fun hij => hstep (congrArg Step.index hij).symm
          refine ⟨_, _, .element hposition' ?_, .element hposition ?_, ?_⟩
          · rwa [List.getElem?_set_ne hne]
          · rwa [List.getElem?_set_ne hne.symm]
          · exact congrArg (Host.sequence _) (List.set_comm _ _ hne)
  | content =>
      cases he with
      | content => exact absurd rfl hstep

/-- What a path finds after some part has been replaced: what it found, or the new part if
it found the old one. -/
theorem Descends.rebuild_cases (hd : Descends h p d) (he : Descends h q e) (new : Host) :
    ∃ f, Descends (d.rebuild new) q f ∧ f.step = e.step ∧ f.rest = e.rest ∧
      (f.child = e.child ∨ (e.child = d.child ∧ f.child = new)) := by
  by_cases hstep : e.step = d.step
  · obtain ⟨hchild, hrebuild⟩ := hd.eq_of_step he hstep
    obtain ⟨f, hf, hfstep, hfchild, hfrest, -⟩ := he.rebuild_self new
    rw [hrebuild] at hf
    exact ⟨f, hf, hfstep, hfrest, .inr ⟨hchild, hfchild⟩⟩
  · obtain ⟨f, hf, hfstep, hrest, hchild | ⟨-, hchild⟩⟩ := hd.rebuild_other he hstep new
    · exact ⟨f, hf, hfstep, hrest, .inl hchild⟩
    · exact ⟨f, hf, hfstep, hrest, .inr hchild⟩

end

/-! ## §5. Reading. -/

section
variable {h : Host} {path : List String} {d : Descent}

theorem Descends.read_eq (hd : Descends h path d) : h.read path = d.child.read d.rest := by
  cases hd with
  | field hslot hcell =>
      rw [read]
      simp only [Layout.child?_of_slot? hslot hcell]
  | fixedKey hslot hcell =>
      rw [read]
      simp only [Layout.child?_of_slot? hslot hcell]
  | entry hentry =>
      rw [read]
      simp only [hentry]
  | first => rw [read]
  | element hposition hitem =>
      rw [read]
      simp only [hposition, hitem]
  | content => rw [read]

theorem read_nil_of_value? {value : Value} (hv : h.value? = some value) :
    h.read [] = .ok value := by
  cases h <;> cases hv <;> rw [read] <;> rfl

/-- **What has been read** was found where the path ends, or further down. -/
theorem read_cases {value : Value} (hread : h.read path = .ok value) :
    (path = [] ∧ h.value? = some value) ∨
      ∃ d, Descends h path d ∧ d.child.read d.rest = .ok value := by
  -- A scalar reads at the end of the path only.
  have hend {kind : Kind} {new : Value} (he : (endAt kind path).map (fun _ => new) = .ok value) :
      path = [] ∧ some new = some value := by
    cases path with
    | nil =>
        cases he
        exact ⟨rfl, rfl⟩
    | cons segment path => cases he
  cases h with
  | string text =>
      rw [read] at hread
      exact .inl (hend hread)
  | integer value =>
      rw [read] at hread
      exact .inl (hend hread)
  | boolean value =>
      rw [read] at hread
      exact .inl (hend hread)
  | bytes content =>
      rw [read] at hread
      exact .inl (hend hread)
  | record layout cells =>
      cases path with
      | nil =>
          rw [read] at hread
          cases hread
          exact .inl ⟨rfl, rfl⟩
      | cons segment path =>
          rw [read] at hread
          split at hread
          · next i child hchild =>
            obtain ⟨name, hslot, hcell⟩ := Layout.exists_slot? hchild
            exact .inr ⟨_, .field hslot hcell, hread⟩
          · cases hread
  | fixed layout cells =>
      cases path with
      | nil =>
          rw [read] at hread
          cases hread
          exact .inl ⟨rfl, rfl⟩
      | cons segment path =>
          rw [read] at hread
          split at hread
          · next i child hchild =>
            obtain ⟨name, hslot, hcell⟩ := Layout.exists_slot? hchild
            exact .inr ⟨_, .fixedKey hslot hcell, hread⟩
          · cases hread
  | map kind type entries =>
      cases path with
      | nil =>
          rw [read] at hread
          cases hread
          exact .inl ⟨rfl, rfl⟩
      | cons segment path =>
          rw [read] at hread
          split at hread
          · next i key child hentry => exact .inr ⟨_, .entry hentry, hread⟩
          · cases hread
  | sequence element items =>
      cases path with
      | nil =>
          cases items with
          | nil =>
              rw [read] at hread
              cases hread
          | cons item items =>
              rw [read] at hread
              exact .inr ⟨_, .first, hread⟩
      | cons segment path =>
          rw [read] at hread
          split at hread
          · cases hread
          · next i hposition =>
            split at hread
            · next item hitem => exact .inr ⟨_, .element hposition hitem, hread⟩
            · cases hread
  | absent inner =>
      rw [read] at hread
      cases hread
  | present inner content =>
      rw [read] at hread
      exact .inr ⟨_, .content, hread⟩

end

end RuleScript.Host
