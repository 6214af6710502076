/-
  RuleScript.Proofs.Host.Effects
  ──────────────────────────────
  **What a write and a clear can do.**

  A write goes down the path until it assigns a scalar, creates an entry or is
  refused; on its way it fills absent optionals.  A clear goes down until it empties
  what is there, takes an entry out, finds nothing to do or is refused.  Each of the
  two is told here once, one descent at a time; what a whole path does follows by
  induction along it.

  Main results:
    • `descends_or_stops` — a path that goes on goes down, or the value stops it.
    • `wrote_write` — every write does one of five things.
    • `cleared_clear` — every clear does one of six things.
    • `writes_write` / `clears_clear` — what is left, along the whole path.
    • `clear_of_failure` — a clear that fails has changed nothing.
-/
import RuleScript.Proofs.Host.Descent
import RuleScript.Proofs.Host.WriteRead

namespace RuleScript.Host

/-! ## §1. Where a path stops. -/

/-- A value stops a path at a segment that leads to none of its parts; a read fails there
with this error. -/
inductive Stops : Host → String → PathError → Prop
  | scalar {h : Host} {segment : String} {kind : Kind}
      (hscalar : h.value?.bind Value.scalar? = some kind) :
      Stops h segment (.pastScalar segment kind)
  | field {layout : Layout} {cells : List Host} {segment : String}
      (hnone : layout.child? cells segment = none) :
      Stops (.record layout cells) segment (.notFound segment .record layout.name)
  | fixedKey {layout : Layout} {cells : List Host} {segment : String}
      (hnone : layout.child? cells segment = none) :
      Stops (.fixed layout cells) segment (.notFound segment .keyed layout.name)
  | entry {kind : MapKind} {type : EntryType} {entries : List (String × Host)}
      {segment : String} (hnone : entry? entries segment = none) :
      Stops (.map kind type entries) segment
        (.notFound segment .keyed (Shape.map kind type).name)
  | position {element : Shape} {items : List Host} {segment : String}
      (hnone : position? segment = none) :
      Stops (.sequence element items) segment
        (.invalidIndex segment (Shape.sequence element).name)
  | element {element : Shape} {items : List Host} {segment : String} {i : Nat}
      (hposition : position? segment = some i) (hnone : items[i]? = none) :
      Stops (.sequence element items) segment
        (.outOfRange i items.length (Shape.sequence element).name)
  | absent {inner : Shape} {segment : String} :
      Stops (.absent inner) segment (.absent (Shape.optional inner).name)

/-- **A path that goes on goes down, or the value stops it.** -/
theorem descends_or_stops (h : Host) (segment : String) (rest : List String) :
    (∃ d, Descends h (segment :: rest) d) ∨ ∃ e, Stops h segment e := by
  cases h with
  | string | integer | boolean | bytes => exact .inr ⟨_, .scalar rfl⟩
  | record layout cells =>
      cases hchild : layout.child? cells segment with
      | none => exact .inr ⟨_, .field hchild⟩
      | some found =>
          obtain ⟨name, hslot, hcell⟩ := Layout.exists_slot? hchild
          exact .inl ⟨_, .field hslot hcell⟩
  | fixed layout cells =>
      cases hchild : layout.child? cells segment with
      | none => exact .inr ⟨_, .fixedKey hchild⟩
      | some found =>
          obtain ⟨name, hslot, hcell⟩ := Layout.exists_slot? hchild
          exact .inl ⟨_, .fixedKey hslot hcell⟩
  | map kind type entries =>
      cases hentry : entry? entries segment with
      | none => exact .inr ⟨_, .entry hentry⟩
      | some found => exact .inl ⟨_, .entry hentry⟩
  | sequence element items =>
      cases hposition : position? segment with
      | none => exact .inr ⟨_, .position hposition⟩
      | some i =>
          cases hitem : items[i]? with
          | none => exact .inr ⟨_, .element hposition hitem⟩
          | some item => exact .inl ⟨_, .element hposition hitem⟩
  | absent inner => exact .inr ⟨_, .absent⟩
  | present inner content => exact .inl ⟨_, .content⟩

section
variable {h : Host} {segment : String} {e : PathError}

/-- A read fails where the value stops the path. -/
theorem Stops.read_eq (hstops : Stops h segment e) (rest : List String) :
    h.read (segment :: rest) = .error e := by
  cases hstops with
  | scalar hscalar =>
      cases h with
      | string | integer | boolean | bytes =>
          cases hscalar
          rw [read]
          rfl
      | record | fixed | map | sequence | absent | present => cases hscalar
  | field hnone =>
      rw [read]
      simp only [hnone]
  | fixedKey hnone =>
      rw [read]
      simp only [hnone]
  | entry hnone =>
      rw [read]
      simp only [hnone]
  | position hnone =>
      rw [read]
      simp only [hnone]
  | element hposition hnone =>
      rw [read]
      simp only [hposition, hnone]
  | absent => rw [read]

/-- What a clear makes of an error: a segment that should count elements, and does not, is
refused; all else that is not there counts as cleared. -/
def clearedAt (h : Host) : PathError → Changed
  | .invalidIndex segment typeName => ⟨h, some (.invalidIndex segment typeName)⟩
  | _ => ⟨h, none⟩

theorem Stops.clear_eq (hstops : Stops h segment e) (rest : List String) :
    h.clear (segment :: rest) = h.clearedAt e := by
  cases hstops with
  | scalar hscalar =>
      cases h with
      | string | integer | boolean | bytes =>
          rw [clear]
          · rfl
          all_goals simp
      | record | fixed | map | sequence | absent | present => cases hscalar
  | field hnone =>
      rw [clear]
      simp only [hnone, clearedAt]
  | fixedKey hnone =>
      rw [clear]
      simp only [hnone, clearedAt]
  | entry hnone =>
      rw [clear]
      simp only [hnone, clearedAt]
  | position hnone =>
      rw [clear]
      simp only [hnone, clearedAt]
  | element hposition hnone =>
      rw [clear]
      simp only [hposition, hnone, clearedAt]
  | absent =>
      rw [clear]
      · rfl
      all_goals simp

/-- No text can be written below a scalar. -/
theorem write_past_scalar (catalog : Catalog) (text : String) {kind : Kind}
    (hscalar : h.value?.bind Value.scalar? = some kind) (rest : List String) :
    h.write catalog text (segment :: rest) = ⟨h, some (.pastScalar segment kind)⟩ := by
  cases h with
  | string | integer | boolean | bytes =>
      cases hscalar
      rw [write]
      rfl
  | record | fixed | map | sequence | absent | present => cases hscalar

end

/-! ## §2. Writes. -/

/-- What a write does at a value, in one descent. -/
inductive Wrote (catalog : Catalog) (text : String) : Host → List String → Changed → Prop
  | into {h : Host} {path : List String} {d : Descent} (hd : Descends h path d) :
      Wrote catalog text h path
        ⟨d.rebuild (d.child.write catalog text d.rest).host,
          (d.child.write catalog text d.rest).failure⟩
  | filled {inner : Shape} {content : Host} {path : List String}
      (hempty : inner.empty? catalog = some content) :
      Wrote catalog text (.absent inner) path
        ⟨.present inner (content.write catalog text path).host,
          (content.write catalog text path).failure⟩
  | assigned {old new : Host} {kind : Kind} {value : Value}
      (hold : old.value?.bind Value.scalar? = some kind) (hnew : new.value? = some value)
      (hcoerces : Coerces text kind value) : Wrote catalog text old [] ⟨new, none⟩
  | created {kind : MapKind} {type : EntryType} {entries : List (String × Host)}
      {segment : String} {new : Host} (hnone : entry? entries segment = none)
      (hmake : type.make text = .ok new) :
      Wrote catalog text (.map kind type entries) [segment]
        ⟨.map kind type (Sorted.put segment new entries), none⟩
  | refused {h : Host} {path : List String} (e : PathError) :
      Wrote catalog text h path ⟨h, some e⟩

section
variable {catalog : Catalog} {text : String}

theorem Descends.write_eq {h : Host} {path : List String} {d : Descent}
    (hd : Descends h path d) :
    h.write catalog text path
      = ⟨d.rebuild (d.child.write catalog text d.rest).host,
          (d.child.write catalog text d.rest).failure⟩ := by
  cases hd with
  | field hslot hcell =>
      rw [write]
      simp only [Layout.child?_of_slot? hslot hcell]
  | fixedKey hslot hcell =>
      rw [write]
      simp only [Layout.child?_of_slot? hslot hcell]
  | entry hentry =>
      rw [write]
      simp only [hentry]
  | first => rw [write]
  | element hposition hitem =>
      rw [write]
      simp only [hposition, hitem]
  | content => rw [write]

theorem wrote_into {h : Host} {path : List String} {d : Descent} (hd : Descends h path d) :
    Wrote catalog text h path (h.write catalog text path) := by
  rw [hd.write_eq]
  exact .into hd

theorem wrote_integer {old : Int64} :
    Wrote catalog text (.integer old) []
      (.scalar .integer (.integer old) [] ((readInteger text).map .integer)) := by
  cases hn : Numeral.integer text with
  | ok n =>
      have hread : readInteger text = .ok n := by
        unfold readInteger
        rw [hn]
        rfl
      rw [hread]
      exact .assigned rfl rfl (.integer (Numeral.integer_eq_ok_iff.1 hn))
  | error fault =>
      have hread : readInteger text = .error (.notInteger text fault) := by
        unfold readInteger
        rw [hn]
        rfl
      rw [hread]
      exact .refused _

/-- What a write does at an optional that is absent. -/
theorem wrote_absent (inner : Shape) (path : List String) :
    Wrote catalog text (.absent inner) path ((Host.absent inner).write catalog text path) := by
  cases hempty : inner.empty? catalog with
  | none =>
      rw [write_absent_none hempty]
      exact .refused _
  | some content =>
      rw [write_absent_some hempty]
      exact .filled hempty

/-- What a write does where its path ends. -/
theorem wrote_nil (catalog : Catalog) (text : String) (h : Host) :
    Wrote catalog text h [] (h.write catalog text []) := by
  cases h with
  | string old =>
      rw [write]
      exact .assigned rfl rfl .string
  | integer old =>
      rw [write]
      exact wrote_integer
  | boolean old =>
      rw [write]
      exact .assigned rfl rfl .boolean
  | bytes old =>
      rw [write]
      exact .assigned rfl rfl .bytes
  | record | fixed | map =>
      rw [write]
      exact .refused _
  | sequence element items =>
      cases items with
      | nil =>
          rw [write]
          exact .refused _
      | cons item items => exact wrote_into .first
  | absent inner => exact wrote_absent inner []
  | present inner content => exact wrote_into .content

/-- **What a write does**: it goes down, fills an absent optional, assigns a scalar,
creates an entry, or is refused and changes nothing. -/
theorem wrote_write (catalog : Catalog) (text : String) (h : Host) (path : List String) :
    Wrote catalog text h path (h.write catalog text path) := by
  cases path with
  | nil => exact wrote_nil catalog text h
  | cons segment path =>
      rcases descends_or_stops h segment path with ⟨d, hd⟩ | ⟨e, hstops⟩
      · exact wrote_into hd
      cases hstops with
      | scalar hscalar =>
          rw [write_past_scalar catalog text hscalar]
          exact .refused _
      | field hnone =>
          rw [write]
          simp only [hnone]
          exact .refused _
      | fixedKey hnone =>
          -- Which error it is hangs on whether the key is listed.
          rw [write]
          simp only [hnone]
          split <;> exact .refused _
      | entry hnone =>
          rw [write]
          simp only [hnone]
          split
          · next hend =>
            rw [List.isEmpty_iff.1 hend]
            split
            · next new hmake => exact .created hnone hmake
            · exact .refused _
          · exact .refused _
      | position hnone =>
          rw [write]
          simp only [hnone]
          exact .refused _
      | element hposition hnone =>
          rw [write]
          simp only [hposition, hnone]
          exact .refused _
      | absent => exact wrote_absent _ _

/-- What has been assigned is a scalar of the kind of what it replaces. -/
theorem scalar_of_assigned {new : Host} {kind : Kind} {value : Value}
    (hnew : new.value? = some value) (hcoerces : Coerces text kind value) :
    new.value?.bind Value.scalar? = some kind := by
  rw [hnew]
  exact hcoerces.scalar?_eq

/-- What a text makes is a scalar of the kind of the entries, or a list of that text. -/
theorem make_cases {type : EntryType} {new : Host} (hmake : type.make text = .ok new) :
    (∃ value, new.value? = some value ∧ Coerces text type.scalar value ∧ type ≠ .strings) ∨
      (type = .strings ∧ new = .sequence .string [.string text]) := by
  cases type with
  | string =>
      cases hmake
      exact .inl ⟨_, rfl, .string, nofun⟩
  | boolean =>
      cases hmake
      exact .inl ⟨_, rfl, .boolean, nofun⟩
  | strings =>
      cases hmake
      exact .inr ⟨rfl, rfl⟩
  | integer =>
      unfold EntryType.make at hmake
      cases hn : Numeral.integer text with
      | ok n =>
          rw [hn] at hmake
          cases hmake
          exact .inl ⟨_, rfl, .integer (Numeral.integer_eq_ok_iff.1 hn), nofun⟩
      | error fault =>
          rw [hn] at hmake
          cases hmake

/-- A scalar is known by what is read of it. -/
theorem eq_of_value? {h other : Host} {kind : Kind} {value : Value}
    (hvalue : h.value? = some value) (hother : other.value? = some value)
    (hkind : value.scalar? = some kind) : h = other := by
  cases h with
  | string | integer | boolean | bytes =>
      cases hvalue
      cases other <;> cases hother
      rfl
  | record | fixed | map =>
      cases hvalue
      cases hkind
  | sequence | absent | present => cases hvalue

/-- **A scalar takes every text that is coerced to a value of its kind.** -/
theorem write_scalar {old new : Host} {kind : Kind} {value : Value}
    (hold : old.value?.bind Value.scalar? = some kind) (hnew : new.value? = some value)
    (hcoerces : Coerces text kind value) : old.write catalog text [] = ⟨new, none⟩ := by
  have hkind : old.target? catalog [] = some kind := by
    cases old with
    | string | integer | boolean | bytes =>
        cases hold
        rw [target?]
        rfl
    | record | fixed | map | sequence | absent | present => cases hold
  have hok := (write_succeeds_iff catalog text old []).2 ⟨kind, value, hkind, hcoerces⟩
  have hwrote := wrote_write catalog text old []
  generalize old.write catalog text [] = written at hok hwrote ⊢
  -- It succeeds, and what it assigns is read as the one value that the text is coerced to.
  cases hwrote with
  | assigned hold' hnew' hcoerces' =>
      rw [hold] at hold'
      cases hold'
      cases hcoerces.unique hcoerces'
      rw [eq_of_value? hnew hnew' hcoerces.scalar?_eq]
  | into hd => cases hd <;> cases hold
  | filled hempty => cases hold
  | refused e => cases hok

end

/-! ## §3. Clears. -/

/-- A clear whose path ends here treats what is here as a whole, whatever it holds: an
optional is emptied, and an entry taken out or left alone. -/
def endsWhole : Host → List String → Bool
  | .present _ _, [] => true
  | .map _ _ _, [_] => true
  | .fixed _ _, [_] => true
  | _, _ => false

/-- What a clear does at a value, in one descent. -/
inductive Cleared : Host → List String → Changed → Prop
  | into {h : Host} {path : List String} {d : Descent} (hd : Descends h path d)
      (hgoes : h.endsWhole path = false) :
      Cleared h path ((d.child.clear d.rest).map d.rebuild)
  | reset {h : Host} {value : Value} (hvalue : h.value? = some value) :
      Cleared h [] ⟨h.cleared, none⟩
  | emptied {inner : Shape} {content : Host} :
      Cleared (.present inner content) [] ⟨.absent inner, none⟩
  | removed {kind : MapKind} {type : EntryType} {entries : List (String × Host)}
      {segment key : String} {i : Nat} {child : Host}
      (hentry : entry? entries segment = some (i, key, child)) :
      Cleared (.map kind type entries) [segment] ⟨.map kind type (entries.eraseIdx i), none⟩
  | kept {h : Host} {path : List String} : Cleared h path ⟨h, none⟩
  | refused {h : Host} {path : List String} (e : PathError) : Cleared h path ⟨h, some e⟩

theorem Descends.clear_eq {h : Host} {path : List String} {d : Descent}
    (hd : Descends h path d) (hgoes : h.endsWhole path = false) :
    h.clear path = (d.child.clear d.rest).map d.rebuild := by
  cases hd with
  | field hslot hcell =>
      rw [clear]
      simp only [Layout.child?_of_slot? hslot hcell]
  | @fixedKey _ _ _ _ path _ _ hslot hcell =>
      cases path with
      | nil => cases hgoes
      | cons segment path =>
          rw [clear]
          simp only [Layout.child?_of_slot? hslot hcell]
          rfl
  | @entry _ _ _ _ _ path _ _ hentry =>
      cases path with
      | nil => cases hgoes
      | cons segment path =>
          rw [clear]
          simp only [hentry]
          rfl
  | first =>
      rw [clear, clear]
      rfl
  | element hposition hitem =>
      rw [clear]
      simp only [hposition, hitem]
  | @content _ _ path =>
      cases path with
      | nil => cases hgoes
      | cons segment path =>
          rw [clear]
          exact List.cons_ne_nil _ _

theorem cleared_into {h : Host} {path : List String} {d : Descent} (hd : Descends h path d)
    (hgoes : h.endsWhole path = false) : Cleared h path (h.clear path) := by
  rw [hd.clear_eq hgoes]
  exact .into hd hgoes

/-- What a clear does where its path ends. -/
theorem cleared_nil (h : Host) : Cleared h [] (h.clear []) := by
  cases h with
  | sequence element items =>
      cases items with
      | nil =>
          rw [clear, cleared]
          exact .kept
      | cons item items => exact cleared_into .first rfl
  | absent inner =>
      rw [clear, cleared]
      exact .kept
  | present inner content =>
      rw [clear, cleared]
      exact .emptied
  | string | integer | boolean | bytes | record | fixed | map =>
      rw [clear]
      exact .reset rfl

/-- An entry of a map is taken out. -/
theorem clear_entry {kind : MapKind} {type : EntryType} {entries : List (String × Host)}
    {segment key : String} {i : Nat} {child : Host}
    (hentry : entry? entries segment = some (i, key, child)) :
    (Host.map kind type entries).clear [segment]
      = ⟨.map kind type (entries.eraseIdx i), none⟩ := by
  rw [clear]
  simp only [hentry]
  rfl

/-- A key that is fixed stays, with what it holds. -/
theorem clear_fixedKey {layout : Layout} {cells : List Host} {segment name : String} {i : Nat}
    {child : Host} (hslot : layout.slot? segment = some (name, i))
    (hcell : cells[i]? = some child) :
    (Host.fixed layout cells).clear [segment] = ⟨.fixed layout cells, none⟩ := by
  rw [clear]
  simp only [Layout.child?_of_slot? hslot hcell]
  rfl

/-- The segment names a key that a keyed container has. -/
inductive HasKey : Host → String → Prop
  | fixed {layout : Layout} {cells : List Host} {segment name : String} {i : Nat} {child : Host}
      (hslot : layout.slot? segment = some (name, i)) (hcell : cells[i]? = some child) :
      HasKey (.fixed layout cells) segment
  | entry {kind : MapKind} {type : EntryType} {entries : List (String × Host)}
      {segment key : String} {i : Nat} {child : Host}
      (hentry : entry? entries segment = some (i, key, child)) :
      HasKey (.map kind type entries) segment

/-- A path that goes on and still ends at a part as a whole ends at a key. -/
theorem Descends.hasKey {h : Host} {segment : String} {path : List String} {d : Descent}
    (hd : Descends h (segment :: path) d) (hends : h.endsWhole (segment :: path) = true) :
    path = [] ∧ h.HasKey segment := by
  cases hd with
  | field | element | content => cases hends
  | fixedKey hslot hcell =>
      cases path with
      | nil => exact ⟨rfl, .fixed hslot hcell⟩
      | cons next path => cases hends
  | entry hentry =>
      cases path with
      | nil => exact ⟨rfl, .entry hentry⟩
      | cons next path => cases hends

/-- **What a clear does**: it goes down, resets or empties what its path ends at, takes
an entry out, finds nothing to clear, or is refused. -/
theorem cleared_clear (h : Host) (path : List String) : Cleared h path (h.clear path) := by
  cases path with
  | nil => exact cleared_nil h
  | cons segment path =>
      rcases descends_or_stops h segment path with ⟨d, hd⟩ | ⟨e, hstops⟩
      · cases hends : h.endsWhole (segment :: path) with
        | false => exact cleared_into hd hends
        | true =>
            obtain ⟨rfl, hkey⟩ := hd.hasKey hends
            cases hkey with
            | fixed hslot hcell =>
                rw [clear_fixedKey hslot hcell]
                exact .kept
            | entry hentry =>
                rw [clear_entry hentry]
                exact .removed hentry
      · rw [hstops.clear_eq]
        unfold clearedAt
        split
        · exact .refused _
        · exact .kept

/-! ## §4. Whole paths. -/

/-- What a write makes of a value, along its path. -/
inductive Writes (catalog : Catalog) (text : String) : Host → List String → Host → Prop
  | into {h child' : Host} {path : List String} {d : Descent} (hd : Descends h path d)
      (hrest : Writes catalog text d.child d.rest child') :
      Writes catalog text h path (d.rebuild child')
  | filled {inner : Shape} {content content' : Host} {path : List String}
      (hempty : inner.empty? catalog = some content)
      (hrest : Writes catalog text content path content') :
      Writes catalog text (.absent inner) path (.present inner content')
  | assigned {old new : Host} {kind : Kind} {value : Value}
      (hold : old.value?.bind Value.scalar? = some kind) (hnew : new.value? = some value)
      (hcoerces : Coerces text kind value) : Writes catalog text old [] new
  | created {kind : MapKind} {type : EntryType} {entries : List (String × Host)}
      {segment : String} {new : Host} (hnone : entry? entries segment = none)
      (hmake : type.make text = .ok new) :
      Writes catalog text (.map kind type entries) [segment]
        (.map kind type (Sorted.put segment new entries))
  | refused {h : Host} {path : List String} : Writes catalog text h path h

/-- **What a write leaves**, whether it succeeds or not. -/
theorem writes_write (catalog : Catalog) (text : String) (h : Host) (path : List String) :
    Writes catalog text h path (h.write catalog text path).host := by
  induction h, path using descent_induction catalog with
  | hstep h path ih ihFilled =>
      have hwrote := wrote_write catalog text h path
      generalize h.write catalog text path = written at hwrote
      cases hwrote with
      | into hd => exact .into hd (ih _ hd)
      | filled hempty => exact .filled hempty (ihFilled _ _ rfl hempty)
      | assigned hold hnew hcoerces => exact .assigned hold hnew hcoerces
      | created hnone hmake => exact .created hnone hmake
      | refused e => exact .refused

/-- What a clear makes of a value, along its path. -/
inductive Clears : Host → List String → Host → Prop
  | into {h child' : Host} {path : List String} {d : Descent} (hd : Descends h path d)
      (hrest : Clears d.child d.rest child') : Clears h path (d.rebuild child')
  | reset {h : Host} {value : Value} (hvalue : h.value? = some value) : Clears h [] h.cleared
  | emptied {inner : Shape} {content : Host} :
      Clears (.present inner content) [] (.absent inner)
  | removed {kind : MapKind} {type : EntryType} {entries : List (String × Host)}
      {segment key : String} {i : Nat} {child : Host}
      (hentry : entry? entries segment = some (i, key, child)) :
      Clears (.map kind type entries) [segment] (.map kind type (entries.eraseIdx i))
  | kept {h : Host} {path : List String} : Clears h path h

/-- **What a clear leaves**, whether it succeeds or not. -/
theorem clears_clear (h : Host) (path : List String) : Clears h path (h.clear path).host := by
  induction h, path using descent_induction [] with
  | hstep h path ih _ =>
      have hcleared := cleared_clear h path
      generalize h.clear path = result at hcleared
      cases hcleared with
      | into hd hgoes => exact .into hd (ih _ hd)
      | reset hvalue => exact .reset hvalue
      | emptied => exact .emptied
      | removed hentry => exact .removed hentry
      | kept => exact .kept
      | refused e => exact .kept

end RuleScript.Host
