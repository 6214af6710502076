/-
  RuleScript.Proofs.Host.Clearing
  ───────────────────────────────
  **What a clear comes to.**

  A clear is lenient: what is not there counts as cleared, and only a segment that
  should count the elements of a sequence, and does not, is refused.  What is there is
  emptied in place, down to the first elements of sequences and to all fields of a
  record; but an optional is emptied as a whole, and an entry of a map taken out.

  A record is cleared field by field, and the loop would stop at the first field that
  refuses.  None does, as a path that has come to its end counts no elements.

  Main results:
    • `zeroed_iff` — what a value is once it has been cleared.
    • `clear_eq_iff` — every clear comes to one of six things, which the way of its path
      tells apart.
    • `clear_record` — a record is cleared by the loop over its fields.
-/
import RuleScript.Proofs.Host.Places
import RuleScript.Proofs.Host.Removal

namespace RuleScript.Host

/-! ## §1. Values that have been cleared. -/

/-- What a value is once it has been cleared: a scalar is zero or empty, a keyed container has
no entries, all that a record holds behind its declared names is cleared, an optional is
absent, and of a sequence the first element if there is one. -/
inductive Zeroed : Host → Host → Prop
  | string {text : String} : Zeroed (.string text) (.string "")
  | integer {value : Int64} : Zeroed (.integer value) (.integer 0)
  | boolean {value : Bool} : Zeroed (.boolean value) (.boolean false)
  | bytes {content : List UInt8} : Zeroed (.bytes content) (.bytes [])
  | record {layout : Layout} {cells cells' : List Host} (hlength : cells'.length = cells.length)
      (hdeclared : ∀ name i cell cell', layout.cell? name = some i → cells[i]? = some cell →
        cells'[i]? = some cell' → Zeroed cell cell')
      (hothers : ∀ i, (∀ name, layout.cell? name ≠ some i) → cells'[i]? = cells[i]?) :
      Zeroed (.record layout cells) (.record layout cells')
  | fixed {layout : Layout} {cells cells' : List Host} (hlength : cells'.length = cells.length)
      (hdeclared : ∀ name i cell cell', layout.cell? name = some i → cells[i]? = some cell →
        cells'[i]? = some cell' → Zeroed cell cell')
      (hothers : ∀ i, (∀ name, layout.cell? name ≠ some i) → cells'[i]? = cells[i]?) :
      Zeroed (.fixed layout cells) (.fixed layout cells')
  | map {kind : MapKind} {type : EntryType} {entries : List (String × Host)} :
      Zeroed (.map kind type entries) (.map kind type [])
  | noElement {element : Shape} : Zeroed (.sequence element []) (.sequence element [])
  | first {element : Shape} {item item' : Host} {items : List Host} (hitem : Zeroed item item') :
      Zeroed (.sequence element (item :: items)) (.sequence element (item' :: items))
  | absent {inner : Shape} : Zeroed (.absent inner) (.absent inner)
  | present {inner : Shape} {content : Host} : Zeroed (.present inner content) (.absent inner)

section
variable {layout : Layout} {cells cells' : List Host}

theorem length_clearedCells (layout : Layout) (n : Nat) (cells : List Host) :
    (clearedCells layout n cells).length = cells.length := by
  induction cells generalizing n with
  | nil => rfl
  | cons cell cells ih => rw [clearedCells, List.length_cons, List.length_cons, ih]

/-- What is behind a declared name has been cleared. -/
theorem getElem?_clearedCells_of_cell? {name : String} {i : Nat}
    (hname : layout.cell? name = some i) (cells : List Host) :
    (clearedCells layout 0 cells)[i]? = cells[i]?.map cleared := by
  have hreached : layout.reaches (0 + i) = true := by
    rw [Nat.zero_add]
    exact Layout.reaches_iff.2 ⟨name, hname⟩
  rw [getElem?_clearedCells]
  simp only [hreached, if_true]

/-- What no declared name reaches is as it was. -/
theorem getElem?_clearedCells_of_ne {i : Nat} (hnone : ∀ name, layout.cell? name ≠ some i)
    (cells : List Host) : (clearedCells layout 0 cells)[i]? = cells[i]? := by
  have hreached : layout.reaches (0 + i) = false := by
    rw [Nat.zero_add, ← Bool.not_eq_true, Layout.reaches_iff]
    exact not_exists.2 hnone
  rw [getElem?_clearedCells]
  simp only [hreached, Bool.false_eq_true, if_false, Option.map_id']

/-- The cells of a value that is cleared are known by what they are behind declared names and
elsewhere. -/
theorem eq_clearedCells (hlength : cells'.length = cells.length)
    (hdeclared : ∀ name i cell cell', layout.cell? name = some i → cells[i]? = some cell →
      cells'[i]? = some cell' → cell' = cell.cleared)
    (hothers : ∀ i, (∀ name, layout.cell? name ≠ some i) → cells'[i]? = cells[i]?) :
    cells' = clearedCells layout 0 cells := by
  refine List.ext_getElem? ?_
  intro i
  by_cases hreached : ∃ name, layout.cell? name = some i
  · obtain ⟨name, hname⟩ := hreached
    rw [getElem?_clearedCells_of_cell? hname]
    cases hcell : cells[i]? with
    | none =>
        rw [List.getElem?_eq_none_iff, ← hlength] at hcell
        exact List.getElem?_eq_none_iff.2 hcell
    | some cell =>
        have hlt : i < cells'.length := hlength ▸ (List.getElem?_eq_some_iff.1 hcell).1
        rw [List.getElem?_eq_getElem hlt]
        exact congrArg some (hdeclared name i cell _ hname hcell (List.getElem?_eq_getElem hlt))
  · have hnone := not_exists.1 hreached
    rw [hothers i hnone, getElem?_clearedCells_of_ne hnone]

end

/-- What is cleared behind declared names is zeroed if every cell is that has been cleared. -/
theorem zeroed_declared {layout : Layout} {cells : List Host}
    (hall : ∀ cell ∈ cells, Zeroed cell cell.cleared) {name : String} {i : Nat}
    {cell cell' : Host} (hname : layout.cell? name = some i) (hcell : cells[i]? = some cell)
    (hcell' : (clearedCells layout 0 cells)[i]? = some cell') : Zeroed cell cell' := by
  rw [getElem?_clearedCells_of_cell? hname, hcell] at hcell'
  cases hcell'
  exact hall cell (List.mem_of_getElem? hcell)

mutual

theorem zeroed_cleared (h : Host) : Zeroed h h.cleared := by
  cases h with
  | string text =>
      rw [cleared]
      exact .string
  | integer value =>
      rw [cleared]
      exact .integer
  | boolean value =>
      rw [cleared]
      exact .boolean
  | bytes content =>
      rw [cleared]
      exact .bytes
  | record layout cells =>
      rw [cleared]
      exact .record (length_clearedCells layout 0 cells)
        (fun _ _ _ _ => zeroed_declared (zeroed_each cells))
        (fun _ hnone => getElem?_clearedCells_of_ne hnone cells)
  | fixed layout cells =>
      rw [cleared]
      exact .fixed (length_clearedCells layout 0 cells)
        (fun _ _ _ _ => zeroed_declared (zeroed_each cells))
        (fun _ hnone => getElem?_clearedCells_of_ne hnone cells)
  | map kind type entries =>
      rw [cleared]
      exact .map
  | sequence element items =>
      cases items with
      | nil =>
          rw [cleared]
          exact .noElement
      | cons item items =>
          rw [cleared]
          exact .first (zeroed_cleared item)
  | absent inner =>
      rw [cleared]
      exact .absent
  | present inner content =>
      rw [cleared]
      exact .present

theorem zeroed_each (cells : List Host) : ∀ cell ∈ cells, Zeroed cell cell.cleared := by
  cases cells with
  | nil => exact fun cell hmem => absurd hmem List.not_mem_nil
  | cons first rest =>
      intro cell hmem
      rcases List.mem_cons.1 hmem with hfirst | hmem
      · rw [hfirst]
        exact zeroed_cleared first
      · exact zeroed_each rest cell hmem

end

/-- **What a value is once it has been cleared** is one value. -/
theorem zeroed_iff {h after : Host} : Zeroed h after ↔ after = h.cleared := by
  constructor
  · intro hzeroed
    induction hzeroed with
    | string | integer | boolean | bytes | map | noElement | absent | present => rw [cleared]
    | record hlength hdeclared hothers ih => rw [cleared, eq_clearedCells hlength ih hothers]
    | fixed hlength hdeclared hothers ih => rw [cleared, eq_clearedCells hlength ih hothers]
    | first hitem ih => rw [cleared, ih]
  · rintro rfl
    exact zeroed_cleared h

/-- Nothing is left to clear in a value that has been cleared. -/
theorem Zeroed.cleared_eq {h after : Host} (hzeroed : Zeroed h after) : after.cleared = after := by
  -- A cell that is cleared once more stays as it is, by induction on how it was cleared.
  have hall {layout : Layout} {cells cells' : List Host} (hlength : cells'.length = cells.length)
      (hdeclared : ∀ name i cell cell', layout.cell? name = some i → cells[i]? = some cell →
        cells'[i]? = some cell' → cell'.cleared = cell') :
      clearedCells layout 0 cells' = cells' := by
    refine (eq_clearedCells rfl ?_ (fun _ _ => rfl)).symm
    intro name i cell' same hname hcell' hsame
    rw [hcell'] at hsame
    cases hsame
    have hlt : i < cells.length := hlength ▸ (List.getElem?_eq_some_iff.1 hcell').1
    exact (hdeclared name i _ cell' hname (List.getElem?_eq_getElem hlt) hcell').symm
  induction hzeroed with
  | string | integer | boolean | bytes | map | noElement | absent | present => rw [cleared]
  | record hlength hdeclared hothers ih => rw [cleared, hall hlength ih]
  | fixed hlength hdeclared hothers ih => rw [cleared, hall hlength ih]
  | first hitem ih => rw [cleared, ih]

theorem cleared_cleared (h : Host) : h.cleared.cleared = h.cleared :=
  (zeroed_cleared h).cleared_eq

/-! ## §2. The fields of a record. -/

/-- Clears one field of a record, by a clear whose path has come to its end. -/
def clearField (layout : Layout) (cells : List Host) (name : String) :
    List Host × Option PathError :=
  match layout.cell? name with
  | none => (cells, none)
  | some i =>
    match cells[i]? with
    | none => (cells, none)
    | some cell => (cells.set i (cell.clear []).host, (cell.clear []).failure)

/-- Clears the fields of a record one after the other, up to the first that fails. -/
def clearFields (layout : Layout) : List Host → (names : List String) →
    List Host × Option PathError
  | cells, [] => (cells, none)
  | cells, name :: names =>
    match clearField layout cells name with
    | (cells, none) => clearFields layout cells names
    | (cells, some e) => (cells, some e)

/-- The cells of which those at the listed places have been cleared. -/
def clearedIn (places : List Nat) (cells : List Host) : List Host :=
  cells.mapIdx fun i cell => if i ∈ places then cell.cleared else cell

theorem getElem?_clearedIn (places : List Nat) (cells : List Host) (i : Nat) :
    (clearedIn places cells)[i]?
      = cells[i]?.map fun cell => if i ∈ places then cell.cleared else cell :=
  List.getElem?_mapIdx

/-- At another place than the one that is listed in addition, nothing else is cleared. -/
theorem clearedIn_append_of_ne {i j : Nat} (hne : j ≠ i) (places : List Nat) (cells : List Host) :
    (clearedIn (places ++ [i]) cells)[j]? = (clearedIn places cells)[j]? := by
  simp only [getElem?_clearedIn, List.mem_append, List.mem_singleton, hne, or_false]

/-- One field more has been cleared, and no other: what a name stands for may have been
cleared already, by another name, and stays as it is. -/
theorem clearField_eq (layout : Layout) (places : List Nat) (cells : List Host) (name : String) :
    clearField layout (clearedIn places cells) name
      = (clearedIn (places ++ (layout.cell? name).toList) cells, none) := by
  unfold clearField
  cases layout.cell? name with
  | none => rw [Option.toList_none, List.append_nil]
  | some i =>
      rw [Option.toList_some]
      simp only [getElem?_clearedIn]
      cases hi : cells[i]? with
      | none =>
          -- There is no such cell, so that none is cleared and none is listed in addition.
          refine Prod.ext (List.ext_getElem? ?_) rfl
          intro j
          by_cases hj : j = i
          · subst hj
            show (clearedIn places cells)[j]? = _
            rw [getElem?_clearedIn, getElem?_clearedIn, hi]
            rfl
          · exact (clearedIn_append_of_ne hj places cells).symm
      | some cell =>
          simp only [Option.map_some, clear]
          refine Prod.ext (List.ext_getElem? ?_) rfl
          intro j
          by_cases hj : j = i
          · subst hj
            have hlt : j < (clearedIn places cells).length := by
              unfold clearedIn
              rw [List.length_mapIdx]
              exact (List.getElem?_eq_some_iff.1 hi).1
            have hlast : j ∈ places ++ [j] := List.mem_append_right _ (List.mem_singleton_self j)
            rw [List.getElem?_set_self hlt, getElem?_clearedIn, hi]
            show some (Host.cleared _) = some (ite _ _ _)
            rw [if_pos hlast]
            split
            · rw [cleared_cleared]
            · rfl
          · rw [List.getElem?_set_ne (Ne.symm hj)]
            exact (clearedIn_append_of_ne hj places cells).symm

/-- **The loop over the fields of a record** clears those that are listed; none of them stops
it. -/
theorem clearFields_eq (layout : Layout) (names : List String) (places : List Nat)
    (cells : List Host) :
    clearFields layout (clearedIn places cells) names
      = (clearedIn (places ++ names.filterMap layout.cell?) cells, none) := by
  induction names generalizing places with
  | nil =>
      rw [List.filterMap_nil, List.append_nil]
      rfl
  | cons name names ih =>
      rw [clearFields, clearField_eq]
      show clearFields layout (clearedIn _ cells) names = _
      rw [ih, List.append_assoc, List.filterMap_cons]
      cases layout.cell? name <;> rfl

/-- **A record is cleared field by field.** -/
theorem clear_record (layout : Layout) (cells : List Host) :
    (Host.record layout cells).clear []
      = ⟨.record layout (clearFields layout cells (layout.slots.map (·.1))).1,
          (clearFields layout cells (layout.slots.map (·.1))).2⟩ := by
  have hstart : clearedIn [] cells = cells := by
    refine List.ext_getElem? ?_
    intro i
    rw [getElem?_clearedIn]
    cases cells[i]? <;> rfl
  have hloop := clearFields_eq layout (layout.slots.map (·.1)) [] cells
  rw [hstart, List.nil_append] at hloop
  -- The listed places are those that declared names reach.
  have hplaces (i : Nat) : i ∈ (layout.slots.map (·.1)).filterMap layout.cell?
      ↔ ∃ name, layout.cell? name = some i := by
    rw [List.mem_filterMap]
    constructor
    · rintro ⟨name, -, hname⟩
      exact ⟨name, hname⟩
    · rintro ⟨name, hname⟩
      exact ⟨name, Layout.mem_names_of_cell? hname, hname⟩
  have hall : clearedIn ((layout.slots.map (·.1)).filterMap layout.cell?) cells
      = clearedCells layout 0 cells := by
    refine eq_clearedCells (by rw [clearedIn, List.length_mapIdx]) ?_ ?_
    · intro name i cell cell' hname hcell hcell'
      rw [getElem?_clearedIn, hcell, Option.map_some,
        if_pos ((hplaces i).2 ⟨name, hname⟩)] at hcell'
      exact (Option.some.inj hcell').symm
    · intro i hnone
      rw [getElem?_clearedIn]
      simp only [hplaces, not_exists.2 hnone, if_false, Option.map_id']
  rw [hloop, hall, clear, cleared]

/-! ## §3. Paths. -/

/-- A clear ends at a part: at the first element of a sequence that has one, but at an optional
as a whole, and at no entry of a keyed container. -/
inductive Ends : Host → List String → Host → (Host → Host) → Prop
  | here {h : Host} (hlast : ∀ element item items, h ≠ .sequence element (item :: items)) :
      Ends h [] h id
  | into {h part : Host} {path : List String} {d : Descent} {rebuild : Host → Host}
      (hd : Descends h path d) (hgoes : h.endsWhole path = false)
      (hrest : Ends d.child d.rest part rebuild) : Ends h path part (d.rebuild ∘ rebuild)

/-- What a clear comes to. -/
inductive Clearing : Host → List String → Changed → Prop
  /-- The path ends at a part, which is cleared. -/
  | zeroed {h part new : Host} {path : List String} {rebuild : Host → Host}
      (hends : Ends h path part rebuild) (hzeroed : Zeroed part new) :
      Clearing h path ⟨rebuild new, none⟩
  /-- It ends at an entry of a map, which is taken out. -/
  | removed {h : Host} {path : List String} {kind : MapKind} {type : EntryType}
      {entries : List (String × Host)} {segment key : String} {i : Nat} {child : Host}
      {rebuild : Host → Host} (hr : Reaches h path (.map kind type entries) [segment] rebuild)
      (hentry : entry? entries segment = some (i, key, child)) :
      Clearing h path ⟨rebuild (.map kind type (entries.eraseIdx i)), none⟩
  /-- It ends at a key that is fixed. -/
  | kept {h : Host} {path : List String} {layout : Layout} {cells : List Host}
      {segment name : String} {i : Nat} {child : Host} {rebuild : Host → Host}
      (hr : Reaches h path (.fixed layout cells) [segment] rebuild)
      (hslot : layout.slot? segment = some (name, i)) (hcell : cells[i]? = some child) :
      Clearing h path ⟨h, none⟩
  /-- It goes on where there is nothing. -/
  | missing {h part : Host} {path rest : List String} {segment : String} {e : PathError}
      {rebuild : Host → Host} (hr : Reaches h path part (segment :: rest) rebuild)
      (hstops : Stops part segment e)
      (hcounts : ∀ segment typeName, e ≠ .invalidIndex segment typeName) :
      Clearing h path ⟨h, none⟩
  /-- It ends at a sequence that has no first element. -/
  | noElement {h : Host} {path : List String} {element : Shape} {rebuild : Host → Host}
      (hends : Ends h path (.sequence element []) rebuild) : Clearing h path ⟨h, none⟩
  /-- It goes on at a sequence by what counts no element, and is refused. -/
  | refused {h : Host} {path rest : List String} {segment : String} {element : Shape}
      {items : List Host} {rebuild : Host → Host}
      (hr : Reaches h path (.sequence element items) (segment :: rest) rebuild)
      (hnone : position? segment = none) :
      Clearing h path ⟨h, some (.invalidIndex segment (Shape.sequence element).name)⟩

section
variable {h part : Host} {path rest : List String} {d : Descent} {rebuild : Host → Host}
  {result : Changed}

theorem Ends.rebuild_part (hends : Ends h path part rebuild) : rebuild part = h := by
  induction hends with
  | here => rfl
  | @into h part path d rebuild hd hgoes hrest ih =>
      show d.rebuild (rebuild part) = h
      rw [ih, hd.rebuild_child]

theorem Ends.clear_eq (hends : Ends h path part rebuild) :
    h.clear path = ⟨rebuild part.cleared, none⟩ := by
  induction hends with
  | here =>
      rw [clear]
      rfl
  | into hd hgoes hrest ih =>
      rw [hd.clear_eq hgoes, ih]
      rfl

/-- What a clear of a part comes to, it comes to around that part. -/
theorem Clearing.into (hd : Descends h path d) (hgoes : h.endsWhole path = false)
    (hrest : Clearing d.child d.rest result) : Clearing h path (result.map d.rebuild) := by
  -- Where nothing is changed in the part, nothing is changed around it.
  have hsame (failure : Option PathError) :
      (⟨d.child, failure⟩ : Changed).map d.rebuild = ⟨h, failure⟩ :=
    congrArg (Changed.mk · failure) hd.rebuild_child
  cases hrest with
  | zeroed hends hzeroed =>
      have hclearing := Clearing.zeroed (.into hd hgoes hends) hzeroed
      exact hclearing
  | removed hr hentry =>
      have hclearing := Clearing.removed (.into hd hr) hentry
      exact hclearing
  | kept hr hslot hcell =>
      rw [hsame]
      exact .kept (.into hd hr) hslot hcell
  | missing hr hstops hcounts =>
      rw [hsame]
      exact .missing (.into hd hr) hstops hcounts
  | noElement hends =>
      rw [hsame]
      exact .noElement (.into hd hgoes hends)
  | refused hr hnone =>
      rw [hsame]
      exact .refused (.into hd hr) hnone

/-- Where the path has come to its end, everything is cleared but what is behind a first
element. -/
theorem clearing_nil (hlast : ∀ element item items, h ≠ .sequence element (item :: items)) :
    Clearing h [] (h.clear []) := by
  have hclearing := Clearing.zeroed (.here hlast) (zeroed_cleared h)
  rw [clear]
  exact hclearing

/-- Every clear comes to one of the six things. -/
theorem clearing_clear (h : Host) (path : List String) : Clearing h path (h.clear path) := by
  induction h, path using descent_induction [] with
  | hstep h path ih _ =>
      cases path with
      | nil =>
          by_cases hfirst : ∃ element item items, h = .sequence element (item :: items)
          -- The end of a path means the first element, and the clear goes on there.
          · obtain ⟨element, item, items, rfl⟩ := hfirst
            have hd : Descends (.sequence element (item :: items)) [] _ := .first
            rw [hd.clear_eq rfl]
            exact .into hd rfl (ih _ hd)
          · refine clearing_nil ?_
            intro element item items he
            exact hfirst ⟨element, item, items, he⟩
      | cons segment path =>
          rcases descends_or_stops h segment path with ⟨d, hd⟩ | ⟨e, hstops⟩
          · cases hgoes : h.endsWhole (segment :: path) with
            | true =>
                obtain ⟨rfl, hkey⟩ := hd.hasKey hgoes
                cases hkey with
                | fixed hslot hcell =>
                    rw [clear_fixedKey hslot hcell]
                    exact .kept .here hslot hcell
                | entry hentry =>
                    rw [clear_entry hentry]
                    exact .removed .here hentry
            | false =>
                rw [hd.clear_eq hgoes]
                exact .into hd hgoes (ih d hd)
          · rw [hstops.clear_eq]
            cases hstops with
            | position hnone => exact .refused .here hnone
            | scalar hscalar => exact .missing .here (.scalar hscalar) nofun
            | field hnone => exact .missing .here (.field hnone) nofun
            | fixedKey hnone => exact .missing .here (.fixedKey hnone) nofun
            | entry hnone => exact .missing .here (.entry hnone) nofun
            | element hposition hnone => exact .missing .here (.element hposition hnone) nofun
            | absent => exact .missing .here .absent nofun

/-- **What a clear comes to**: the six things are all, and the path tells them apart. -/
theorem clear_eq_iff : h.clear path = result ↔ Clearing h path result := by
  constructor
  · rintro rfl
    exact clearing_clear h path
  · intro hclearing
    cases hclearing with
    | zeroed hends hzeroed => rw [hends.clear_eq, zeroed_iff.1 hzeroed]
    | removed hr hentry =>
        rw [hr.clear_eq (List.cons_ne_nil _ _), clear_entry hentry]
        rfl
    | kept hr hslot hcell =>
        rw [hr.clear_eq (List.cons_ne_nil _ _), clear_fixedKey hslot hcell]
        exact congrArg (Changed.mk · none) hr.rebuild_part
    | @missing part _ rest segment e rebuild hr hstops hcounts =>
        have hkept : part.clearedAt e = ⟨part, none⟩ := by
          cases e with
          | invalidIndex segment typeName => exact absurd rfl (hcounts segment typeName)
          | _ => rfl
        rw [hr.clear_eq (List.cons_ne_nil _ _), hstops.clear_eq, hkept]
        exact congrArg (Changed.mk · none) hr.rebuild_part
    | noElement hends =>
        rw [hends.clear_eq, cleared]
        exact congrArg (Changed.mk · none) hends.rebuild_part
    | refused hr hnone =>
        rw [hr.clear_eq (List.cons_ne_nil _ _), (Stops.position hnone).clear_eq]
        exact congrArg (Changed.mk · _) hr.rebuild_part

end

/-- **The full effect of a clear.**  It comes to one of six things, which the way of its path
tells apart; and a record that is cleared as a whole is cleared by the loop over its declared
names. -/
theorem clear_effect :
    (∀ (h : Host) (path : List String) (result : Changed),
      h.clear path = result ↔ Clearing h path result) ∧
    (∀ (layout : Layout) (cells : List Host),
      (Host.record layout cells).clear []
        = ⟨.record layout (clearFields layout cells (layout.slots.map (·.1))).1,
            (clearFields layout cells (layout.slots.map (·.1))).2⟩) :=
  ⟨fun _ _ _ => clear_eq_iff, clear_record⟩

/-- The fields of a basket. -/
def basket : Layout := .ofFields "Basket" ["Items", "Coupon"]

/-- What a basket holds. -/
def sampleBasket : List Host :=
  [.sequence .integer [.integer 7, .integer 9], .present .string (.string "x")]

/-- A basket that is cleared loses its first item and its coupon, field by field; its items,
cleared alone, lose the first one, and refuse what counts none of them. -/
theorem sampleBasket_clear_effect :
    Host.record basket (clearFields basket sampleBasket ["Items", "Coupon"]).1
      = .record basket [.sequence .integer [.integer 0, .integer 9], .absent .string] ∧
    (Host.record basket sampleBasket).clear ["items"]
      = ⟨.record basket
          [.sequence .integer [.integer 0, .integer 9], .present .string (.string "x")], none⟩ ∧
    (Host.record basket sampleBasket).clear ["items", "x"]
      = ⟨.record basket sampleBasket,
          some (.invalidIndex "x" (Shape.sequence .integer).name)⟩ := by
  obtain ⟨hclearing, hloop⟩ := clear_effect
  have hitems (rest : List String) :
      Descends (.record basket sampleBasket) ("items" :: rest) _ := .field rfl rfl
  refine ⟨?_, ?_, ?_⟩
  · refine (congrArg Changed.host (hloop basket sampleBasket)).symm.trans ?_
    rw [clear]
    rfl
  · have hends : Ends (.integer 7) [] (.integer 7) id := by
      refine .here ?_
      intro element item items he
      cases he
    have hzeroed := Clearing.zeroed (.into (hitems []) rfl (.into .first rfl hends)) .integer
    exact (hclearing _ _ _).2 hzeroed
  · exact (hclearing _ _ _).2 (.refused (.into (hitems ["x"]) .here) (by decide))

end RuleScript.Host
