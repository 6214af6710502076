/-
  RuleScript.Proofs.Host.Places
  ─────────────────────────────
  **What is at a place of a host value.**

  A place is a chain of steps: declared names, stored keys, positions in sequences,
  and optionals looked into.  Every part of a value is at some place, also a part that
  no path leads to because another name that is the same up to case comes first.  The
  face of a part is what there is of it without its own parts.

  Main results:
    • `Descends.part?_eq` — a path goes down by the step that it names.
    • `Descends.part?_rebuild` — after one part has been replaced, every step finds
      the new part where it found the old one, and else what it found.
    • `Descends.keeps_rebuild` — what is kept in one part is kept around it.
    • `part?_cleared` — what is in a cleared value was in it before.
-/
import RuleScript.Host.Member
import RuleScript.Proofs.Host.Descent
import RuleScript.Proofs.Host.WriteRead

namespace RuleScript.Host

/-! ## §1. Parts by place. -/

/-- The part that one step leads to. -/
def part? : Host → Step → Option Host
  | .record layout cells, .field name => (layout.cell? name).bind (cells[·]?)
  | .fixed layout cells, .key name => (layout.cell? name).bind (cells[·]?)
  | .map _ _ entries, .key key => entries.lookup key
  | .sequence _ items, .index i => items[i]?
  | .present _ content, .content => some content
  | _, _ => none

/-- What is at a place. -/
def at? : Host → List Step → Option Host
  | h, [] => some h
  | h, step :: place => (h.part? step).bind (·.at? place)

/-- What there is of a value without its parts: the value of a scalar, the fields of a
record, the keys of a map, the length of a sequence. -/
inductive Face where
  | scalar (value : Value)
  | record (layout : Layout)
  | fixed (layout : Layout)
  | map (kind : MapKind) (type : EntryType) (keys : List String)
  | sequence (element : Shape) (length : Nat)
  | optional (inner : Shape)
  deriving Repr, DecidableEq

/-- The face of a value. -/
def face : Host → Face
  | .string text => .scalar (.string text)
  | .integer value => .scalar (.integer value)
  | .boolean value => .scalar (.boolean value)
  | .bytes content => .scalar (.bytes content)
  | .record layout _ => .record layout
  | .fixed layout _ => .fixed layout
  | .map kind type entries => .map kind type (entries.map (·.1))
  | .sequence element items => .sequence element items.length
  | .absent inner => .optional inner
  | .present inner _ => .optional inner

theorem at?_nil (h : Host) : h.at? [] = some h := by
  rw [at?]

theorem at?_cons {h child : Host} {step : Step} (hpart : h.part? step = some child)
    (place : List Step) : h.at? (step :: place) = child.at? place := by
  rw [at?, hpart]
  rfl

/-- Where a step leads to the same part, so do places behind it. -/
theorem at?_congr {h other : Host} {step : Step} (hpart : h.part? step = other.part? step)
    (place : List Step) : h.at? (step :: place) = other.at? (step :: place) := by
  rw [at?, at?, hpart]

/-- What is at a place that goes on is in some part. -/
theorem at?_cons_cases {h part : Host} {step : Step} {place : List Step}
    (hat : h.at? (step :: place) = some part) :
    ∃ child, h.part? step = some child ∧ child.at? place = some part := by
  rw [at?] at hat
  exact Option.bind_eq_some_iff.1 hat

/-- The length of a sequence, told from its face. -/
def Face.length? : Face → Option Nat
  | .sequence _ length => some length
  | _ => none

theorem size?_eq_length?_face (h : Host) : h.size? = h.face.length? := by
  cases h <;> rfl

/-! ## §2. Names and keys. -/

/-- The name that a segment finds in a table is looked up there: the same name in front
would have been found. -/
theorem lookup_of_find? {α : Type} {table : List (String × α)} {segment name : String} {a : α}
    (hfind : (table.find? fun entry => Text.sameName entry.1 segment) = some (name, a)) :
    table.lookup name = some a := by
  obtain ⟨hsame, before, behind, htable, hfirst⟩ := List.find?_eq_some_iff_append.1 hfind
  rw [List.lookup_eq_some_iff]
  refine ⟨before, behind, htable, ?_⟩
  intro entry hmem
  rw [bne_iff_ne]
  intro hname
  have hother := hfirst entry hmem
  rw [← hname, hsame] at hother
  cases hother

/-- The name that a segment finds is declared for the cell that it finds. -/
theorem Layout.cell?_of_slot? {layout : Layout} {segment name : String} {i : Nat}
    (hslot : layout.slot? segment = some (name, i)) : layout.cell? name = some i := by
  unfold Layout.cell?
  rw [lookup_of_find? (Layout.slot?_eq_some_iff.1 hslot)]
  rfl

/-- The key that a segment finds is stored with the entry that it finds. -/
theorem lookup_entry {entries : List (String × Host)} {segment key : String} {i : Nat}
    {child : Host} (hentry : entry? entries segment = some (i, key, child)) :
    entries.lookup key = some child :=
  lookup_of_find? (exists_entry?_iff.1 ⟨i, hentry⟩)

theorem mem_of_lookup {α : Type} {table : List (String × α)} {key : String} {a : α}
    (hlookup : table.lookup key = some a) : (key, a) ∈ table := by
  obtain ⟨before, behind, rfl, -⟩ := List.lookup_eq_some_iff.1 hlookup
  exact List.mem_append_right _ List.mem_cons_self

/-- Where no key is there twice, what a key holds is looked up with it. -/
theorem lookup_of_mem {α : Type} {table : List (String × α)} {key : String} {a : α}
    (hkeys : (table.map (·.1)).Nodup) (hmem : (key, a) ∈ table) : table.lookup key = some a := by
  obtain ⟨before, behind, rfl⟩ := List.append_of_mem hmem
  rw [List.map_append, List.map_cons, List.nodup_append] at hkeys
  refine List.lookup_eq_some_iff.2 ⟨before, behind, rfl, ?_⟩
  intro entry hentry
  rw [bne_iff_ne]
  exact (hkeys.2.2 entry.1 (List.mem_map_of_mem hentry) key List.mem_cons_self).symm

/-- An entry that holds something else leaves the other keys where they are. -/
theorem lookup_set_of_ne {entries : List (String × Host)} {key other : String} {i : Nat}
    {child : Host} (hentry : entries[i]? = some (key, child)) (hne : other ≠ key) (new : Host) :
    (entries.set i (key, new)).lookup other = entries.lookup other := by
  have hkey : (other == key) = false := beq_eq_false_iff_ne.2 hne
  induction entries generalizing i with
  | nil => rfl
  | cons entry rest ih =>
      cases i with
      | zero =>
          cases hentry
          rw [List.set_cons_zero, List.lookup_cons, List.lookup_cons, hkey]
      | succ i =>
          rw [List.set_cons_succ, List.lookup_cons, List.lookup_cons, ih hentry]

/-! ## §3. Descents. -/

section
variable {h : Host} {path : List String} {d : Descent}

/-- **A path goes down by the step that it names.** -/
theorem Descends.part?_eq (hd : Descends h path d) : h.part? d.step = some d.child := by
  cases hd with
  | field hslot hcell =>
      rw [part?, Layout.cell?_of_slot? hslot]
      exact hcell
  | fixedKey hslot hcell =>
      rw [part?, Layout.cell?_of_slot? hslot]
      exact hcell
  | entry hentry => exact lookup_entry hentry
  | first => rfl
  | element hposition hitem => exact hitem
  | content => rfl

/-- A value with another part in it has the same face. -/
theorem Descends.face_rebuild (hd : Descends h path d) (new : Host) :
    (d.rebuild new).face = h.face := by
  cases hd with
  | field => rfl
  | fixedKey => rfl
  | entry hentry => exact congrArg (Face.map _ _) (map_fst_set (entry?_eq_some_iff.1 hentry).2 new)
  | first => rfl
  | element hposition hitem => exact congrArg (Face.sequence _) (List.length_set)
  | content => rfl

/-- A cell that holds something else is found where it was found, and no other is. -/
theorem getElem?_set_cases {cells : List Host} {i : Nat} {child : Host}
    (hcell : cells[i]? = some child) (new : Host) (j : Nat) :
    (cells.set i new)[j]? = cells[j]? ∨
      (cells[j]? = some child ∧ (cells.set i new)[j]? = some new) := by
  by_cases hij : i = j
  · subst hij
    exact .inr ⟨hcell, List.getElem?_set_self (List.getElem?_eq_some_iff.1 hcell).1⟩
  · exact .inl (List.getElem?_set_ne hij)

/-- The same for the cells behind declared names, which may share one. -/
theorem Layout.bind_cell?_set_cases {cells : List Host} {i : Nat} {child : Host}
    (hcell : cells[i]? = some child) (new : Host) (layout : Layout) (name : String) :
    (layout.cell? name).bind ((cells.set i new)[·]?) = (layout.cell? name).bind (cells[·]?) ∨
      ((layout.cell? name).bind (cells[·]?) = some child ∧
        (layout.cell? name).bind ((cells.set i new)[·]?) = some new) := by
  cases layout.cell? name with
  | none => exact .inl rfl
  | some j => exact getElem?_set_cases hcell new j

/-- **After one part has been replaced**, every step finds the new part where it found the
old one, and else what it found. -/
theorem Descends.part?_rebuild (hd : Descends h path d) (new : Host) (step : Step) :
    (d.rebuild new).part? step = h.part? step ∨
      (h.part? step = some d.child ∧ (d.rebuild new).part? step = some new) := by
  cases hd with
  | @field layout cells _ _ _ i child hslot hcell =>
      cases step with
      | field name => exact layout.bind_cell?_set_cases hcell new name
      | _ => exact .inl rfl
  | @fixedKey layout cells _ _ _ i child hslot hcell =>
      cases step with
      | key name => exact layout.bind_cell?_set_cases hcell new name
      | _ => exact .inl rfl
  | @entry _ _ entries _ key _ i child hentry =>
      cases step with
      | key other =>
          by_cases hother : other = key
          · subst hother
            exact .inr ⟨lookup_entry hentry, lookup_entry (entry?_set hentry new)⟩
          · exact .inl (lookup_set_of_ne (entry?_eq_some_iff.1 hentry).2 hother new)
      | _ => exact .inl rfl
  | @first _ item items =>
      cases step with
      | index j =>
          have hhead : (item :: items)[0]? = some item := rfl
          exact getElem?_set_cases hhead new j
      | _ => exact .inl rfl
  | element hposition hitem =>
      cases step with
      | index j => exact getElem?_set_cases hitem new j
      | _ => exact .inl rfl
  | content =>
      cases step with
      | content => exact .inr ⟨rfl, rfl⟩
      | _ => exact .inl rfl

/-- What is at a place that goes on is what was there, or it is in the part that has been
replaced. -/
theorem Descends.at?_rebuild (hd : Descends h path d) (new : Host) (step : Step)
    (place : List Step) :
    (d.rebuild new).at? (step :: place) = h.at? (step :: place) ∨
      (h.at? (step :: place) = d.child.at? place ∧
        (d.rebuild new).at? (step :: place) = new.at? place) := by
  rcases hd.part?_rebuild new step with hsame | ⟨hold, hnew⟩
  · exact .inl (at?_congr hsame place)
  · exact .inr ⟨at?_cons hold place, at?_cons hnew place⟩

end

/-! ## §4. What is the same everywhere. -/

/-- Every part of the first value is in the second one too, in its place, as the relation
allows. -/
def Keeps (R : Host → Host → Prop) (h after : Host) : Prop :=
  ∀ place part, h.at? place = some part → ∃ part', after.at? place = some part' ∧ R part part'

/-- The property holds of the value and all its parts. -/
def Everywhere (P : Host → Prop) (h : Host) : Prop :=
  ∀ place part, h.at? place = some part → P part

section
variable {R : Host → Host → Prop} {P : Host → Prop} {h after new : Host} {path : List String}
  {d : Descent}

theorem Keeps.refl (hrefl : ∀ part, R part part) (h : Host) : Keeps R h h :=
  fun _ part hpart => ⟨part, hpart, hrefl part⟩

/-- A value without parts has but itself to be kept. -/
theorem keeps_of_part?_none (hnone : ∀ step, h.part? step = none) (htop : R h after) :
    Keeps R h after := by
  intro place part hpart
  cases place with
  | nil =>
      cases hpart
      exact ⟨after, at?_nil _, htop⟩
  | cons step place =>
      obtain ⟨child, hchild, -⟩ := at?_cons_cases hpart
      rw [hnone] at hchild
      cases hchild

/-- **What is kept in one part** is kept in the value around it. -/
theorem Descends.keeps_rebuild (hd : Descends h path d) (hrefl : ∀ part, R part part)
    (htop : R h (d.rebuild new)) (hkeeps : Keeps R d.child new) : Keeps R h (d.rebuild new) := by
  intro place part hpart
  cases place with
  | nil =>
      cases hpart
      exact ⟨d.rebuild new, at?_nil _, htop⟩
  | cons step place =>
      rcases hd.at?_rebuild new step place with hsame | ⟨hold, hnew⟩
      · exact ⟨part, hsame.trans hpart, hrefl part⟩
      · rw [hold] at hpart
        rw [hnew]
        exact hkeeps place part hpart

/-- The same, with the value as it was kept of the new one. -/
theorem Descends.keeps_of_rebuild (hd : Descends h path d) (hrefl : ∀ part, R part part)
    (htop : R (d.rebuild new) h) (hkeeps : Keeps R new d.child) : Keeps R (d.rebuild new) h := by
  intro place part hpart
  cases place with
  | nil =>
      cases hpart
      exact ⟨h, at?_nil _, htop⟩
  | cons step place =>
      rcases hd.at?_rebuild new step place with hsame | ⟨hold, hnew⟩
      · exact ⟨part, hsame.symm.trans hpart, hrefl part⟩
      · rw [hnew] at hpart
        rw [hold]
        exact hkeeps place part hpart

theorem Everywhere.self (hall : h.Everywhere P) : P h := hall [] h (at?_nil h)

theorem Everywhere.part {step : Step} {child : Host} (hall : h.Everywhere P)
    (hpart : h.part? step = some child) : child.Everywhere P := by
  intro place part hchild
  exact hall (step :: place) part ((at?_cons hpart place).trans hchild)

/-- What holds of a value and everywhere in its parts holds everywhere in it. -/
theorem everywhere_of_parts (htop : P h)
    (hparts : ∀ step child, h.part? step = some child → child.Everywhere P) :
    h.Everywhere P := by
  intro place part hpart
  cases place with
  | nil =>
      cases hpart
      exact htop
  | cons step place =>
      obtain ⟨child, hchild, hrest⟩ := at?_cons_cases hpart
      exact hparts step child hchild place part hrest

theorem Descends.everywhere_rebuild (hd : Descends h path d) (htop : P (d.rebuild new))
    (hall : h.Everywhere P) (hnew : new.Everywhere P) : (d.rebuild new).Everywhere P := by
  refine everywhere_of_parts htop (fun step child hchild => ?_)
  rcases hd.part?_rebuild new step with hsame | ⟨-, hsame⟩
  · rw [hsame] at hchild
    exact hall.part hchild
  · rw [hsame] at hchild
    cases hchild
    exact hnew

end

/-! ## §5. Scalars, maps and cleared values. -/

/-- A scalar has no parts. -/
theorem part?_of_scalar {h : Host} {kind : Kind}
    (hscalar : h.value?.bind Value.scalar? = some kind) (step : Step) : h.part? step = none := by
  cases h with
  | string | integer | boolean | bytes => cases step <;> rfl
  | record | fixed | map | sequence | absent | present => cases hscalar

/-- A segment that finds no entry is no stored key. -/
theorem ne_of_entry?_none {entries : List (String × Host)} {segment : String}
    (hnone : entry? entries segment = none) : ∀ entry ∈ entries, entry.1 ≠ segment := by
  intro entry hmem hkey
  have hother := entry?_eq_none_iff.1 hnone entry hmem
  rw [hkey, Text.sameName_refl] at hother
  cases hother

/-- After an entry has been created, every other step finds what it found. -/
theorem part?_put_cases (kind : MapKind) (type : EntryType) (entries : List (String × Host))
    (segment : String) (new : Host) (step : Step) :
    (Host.map kind type (Sorted.put segment new entries)).part? step
        = (Host.map kind type entries).part? step ∨
      (step = .key segment ∧
        (Host.map kind type (Sorted.put segment new entries)).part? step = some new) := by
  cases step with
  | key key =>
      by_cases hkey : key = segment
      · subst hkey
        exact .inr ⟨rfl, Sorted.lookup_put_self ..⟩
      · exact .inl (Sorted.lookup_put_of_ne hkey ..)
  | _ => exact .inl rfl

/-- What is under a stored key is still there when another key has been put in. -/
theorem part?_put {kind : MapKind} {type : EntryType} {entries : List (String × Host)}
    {segment : String} {step : Step} {child : Host} (hnone : entry? entries segment = none)
    (hchild : (Host.map kind type entries).part? step = some child) (new : Host) :
    (Host.map kind type (Sorted.put segment new entries)).part? step = some child := by
  rcases part?_put_cases kind type entries segment new step with hsame | ⟨rfl, -⟩
  · exact hsame.trans hchild
  · exact absurd rfl (ne_of_entry?_none hnone _ (mem_of_lookup hchild))

/-- A name with a cell is one of the declared names. -/
theorem Layout.mem_names_of_cell? {layout : Layout} {name : String} {i : Nat}
    (hcell : layout.cell? name = some i) : name ∈ layout.slots.map (·.1) := by
  have hlookup : layout.slots.lookup name = some (some i) := Option.join_eq_some_iff.1 hcell
  exact List.mem_map_of_mem (mem_of_lookup hlookup)

theorem Layout.reaches_iff {layout : Layout} {i : Nat} :
    layout.reaches i = true ↔ ∃ name, layout.cell? name = some i := by
  unfold reaches
  rw [List.any_eq_true]
  constructor
  · rintro ⟨slot, -, hcell⟩
    exact ⟨slot.1, beq_iff_eq.1 hcell⟩
  · rintro ⟨name, hcell⟩
    obtain ⟨slot, hslot, rfl⟩ := List.mem_map.1 (mem_names_of_cell? hcell)
    exact ⟨slot, hslot, beq_iff_eq.2 hcell⟩

/-- Every cell stands where it stood, cleared if a declared name reaches it. -/
theorem getElem?_clearedCells (layout : Layout) (n : Nat) (cells : List Host) (i : Nat) :
    (clearedCells layout n cells)[i]?
      = cells[i]?.map fun cell => if layout.reaches (n + i) then cell.cleared else cell := by
  induction cells generalizing n i with
  | nil => rfl
  | cons cell cells ih =>
      rw [clearedCells]
      cases i with
      | zero => rfl
      | succ i =>
          rw [List.getElem?_cons_succ, List.getElem?_cons_succ, ih, Nat.add_right_comm,
            Nat.add_assoc]

/-- A cell behind a declared name has been cleared. -/
theorem Layout.bind_cell?_clearedCells {layout : Layout} {cells : List Host} {name : String}
    {child' : Host}
    (hchild : (layout.cell? name).bind ((clearedCells layout 0 cells)[·]?) = some child') :
    ∃ child, (layout.cell? name).bind (cells[·]?) = some child ∧ child' = child.cleared := by
  obtain ⟨i, hi, hcell⟩ := Option.bind_eq_some_iff.1 hchild
  have hreached : layout.reaches (0 + i) = true := by
    rw [Nat.zero_add]
    exact reaches_iff.2 ⟨name, hi⟩
  rw [getElem?_clearedCells] at hcell
  obtain ⟨child, hold, rfl⟩ := Option.map_eq_some_iff.1 hcell
  rw [hi]
  exact ⟨child, hold, if_pos hreached⟩

/-- **What is in a cleared value** was in it before, perhaps not cleared. -/
theorem part?_cleared {h child' : Host} {step : Step}
    (hchild : h.cleared.part? step = some child') :
    ∃ child, h.part? step = some child ∧ (child' = child ∨ child' = child.cleared) := by
  cases h with
  | string | integer | boolean | bytes | map | absent | present =>
      rw [cleared] at hchild
      cases step <;> cases hchild
  | record layout cells =>
      rw [cleared] at hchild
      cases step with
      | field name =>
          obtain ⟨child, hold, rfl⟩ := Layout.bind_cell?_clearedCells hchild
          exact ⟨child, hold, .inr rfl⟩
      | root | key | index | content => cases hchild
  | fixed layout cells =>
      rw [cleared] at hchild
      cases step with
      | key name =>
          obtain ⟨child, hold, rfl⟩ := Layout.bind_cell?_clearedCells hchild
          exact ⟨child, hold, .inr rfl⟩
      | root | field | index | content => cases hchild
  | sequence element items =>
      cases items with
      | nil =>
          rw [cleared] at hchild
          exact ⟨child', hchild, .inl rfl⟩
      | cons item items =>
          rw [cleared] at hchild
          cases step with
          | index i =>
              cases i with
              | zero =>
                  cases hchild
                  exact ⟨item, rfl, .inr rfl⟩
              | succ i => exact ⟨child', hchild, .inl rfl⟩
          | root | field | key | content => cases hchild

end RuleScript.Host
