/-
  RuleScript.Proofs.Host.Untouched
  ────────────────────────────────
  **What a write and a clear leave alone.**

  The place that a path leads to is the chain of its steps: the declared names, the
  stored keys, the positions, and the optionals looked into.  Paths that are spelled
  differently may lead to one place, and the same spelling may lead elsewhere once
  keys have been put in or taken out; so what is left alone is told by places.

  A clear resets more than the place that its path leads to where that path ends at an
  optional or at an entry of a map: then the optional is emptied, and the entry taken
  out, with all that they hold.

  A hashed map has no order of its own: it may list its entries in another one after
  it has been written to.  No path notices, as long as no two of its keys are the same
  up to case.

  Main results:
    • `Finds.write` — after a write, a path leads where it led, and reads the same
      unless the write leads there too.
    • `Finds.clear` — after a clear, what is not below the place that has been reset
      reads the same.
    • `Finds.rearranged` — in whatever order hashed maps list their entries.
-/
import RuleScript.Proofs.Host.Keys

namespace RuleScript.Host

/-! ## §1. Places. -/

/-- The place that a path leads to. -/
inductive Leads : Host → List String → List Step → Prop
  | ends {h : Host} {value : Value} (hvalue : h.value? = some value) : Leads h [] []
  | into {h : Host} {path : List String} {d : Descent} {place : List Step}
      (hd : Descends h path d) (hrest : Leads d.child d.rest place) :
      Leads h path (d.step :: place)

/-- The place that a clear resets: where the path leads, or the optional or entry that
it ends at. -/
inductive Resets : Host → List String → List Step → Prop
  | ends {h : Host} {value : Value} (hvalue : h.value? = some value) : Resets h [] []
  | optional {inner : Shape} {content : Host} : Resets (.present inner content) [] []
  | entry {kind : MapKind} {type : EntryType} {entries : List (String × Host)}
      {segment key : String} {i : Nat} {child : Host}
      (hentry : entry? entries segment = some (i, key, child)) :
      Resets (.map kind type entries) [segment] [.key key]
  | into {h : Host} {path : List String} {d : Descent} {place : List Step}
      (hd : Descends h path d) (hgoes : h.endsWhole path = false)
      (hrest : Resets d.child d.rest place) : Resets h path (d.step :: place)

/-- A path leads to one place at most. -/
theorem Leads.unique {h : Host} {path : List String} {place place' : List Step}
    (hp : Leads h path place) (hp' : Leads h path place') : place = place' := by
  induction hp generalizing place' with
  | ends hvalue =>
      cases hp' with
      | ends => rfl
      | into hd =>
          rw [hd.value?_eq_none] at hvalue
          cases hvalue
  | into hd hrest ih =>
      cases hp' with
      | ends hvalue =>
          rw [hd.value?_eq_none] at hvalue
          cases hvalue
      | into hd' hrest' =>
          cases hd.unique hd'
          rw [ih hrest']

/-! ## §2. What a path finds. -/

/-- No two keys are the same up to case, if this is the face of a hashed map. -/
def Face.Unambiguous : Face → Prop
  | .map .hashed _ keys => keys.Pairwise Apart
  | _ => True

/-- No hashed map in the value has two keys that are the same up to case. -/
def HashedDistinct (h : Host) : Prop := h.Everywhere fun part => part.face.Unambiguous

/-- A value whose keys are all distinct has them distinct in its hashed maps. -/
theorem Distinct.hashed {h : Host} (hdistinct : h.Distinct) : h.HashedDistinct := by
  intro place part hpart
  have hface := hdistinct place part hpart
  cases part with
  | map kind type entries =>
      cases kind with
      | hashed => exact hface
      | ordered => trivial
  | string | integer | boolean | bytes | record | fixed | sequence | absent | present => trivial

/-- The path leads to this place and reads this value there; and in no hashed map on its way
could it mean another key. -/
inductive Finds : Host → List String → List Step → Value → Prop
  | ends {h : Host} {value : Value} (hvalue : h.value? = some value) : Finds h [] [] value
  | into {h : Host} {path : List String} {d : Descent} {place : List Step} {value : Value}
      (hd : Descends h path d) (halone : h.face.Unambiguous)
      (hrest : Finds d.child d.rest place value) : Finds h path (d.step :: place) value

section
variable {h : Host} {p q : List String} {place : List Step} {value : Value}

/-- What is found below an entry. -/
theorem finds_entry {kind : MapKind} {type : EntryType} {entries : List (String × Host)}
    {segment key : String} {i : Nat} {child : Host}
    (hentry : entry? entries segment = some (i, key, child))
    (halone : (Host.map kind type entries).face.Unambiguous) (hrest : Finds child q place value) :
    Finds (.map kind type entries) (segment :: q) (.key key :: place) value := by
  have hd : Descends (.map kind type entries) (segment :: q) _ := .entry hentry
  exact .into hd halone hrest

theorem Finds.leads (hq : Finds h q place value) : Leads h q place := by
  induction hq with
  | ends hvalue => exact .ends hvalue
  | into hd halone hrest ih => exact .into hd ih

theorem Finds.read_eq (hq : Finds h q place value) : h.read q = .ok value := by
  induction hq with
  | ends hvalue => exact read_nil_of_value? hvalue
  | into hd halone hrest ih =>
      rw [hd.read_eq]
      exact ih

theorem finds_of_read (hdistinct : h.HashedDistinct) (hread : h.read q = .ok value) :
    ∃ place, Finds h q place value := by
  induction h, q using descent_induction [] with
  | hstep h q ih _ =>
      rcases read_cases hread with ⟨rfl, hvalue⟩ | ⟨d, hd, hchild⟩
      · exact ⟨[], .ends hvalue⟩
      · obtain ⟨place, hplace⟩ := ih d hd (Everywhere.part hdistinct hd.part?_eq) hchild
        exact ⟨d.step :: place, .into hd (Everywhere.self hdistinct) hplace⟩

/-! ## §3. Writes. -/

/-- What a path finds in a value of which a part has been replaced: in the part, if it
goes there, and else what it found. -/
theorem Descends.after_rebuild {d e : Descent} (hi : h.Independent) (hd : Descends h p d)
    (he : Descends h q e) (new : Host) :
    ∃ f, Descends (d.rebuild new) q f ∧ f.step = e.step ∧ f.rest = e.rest ∧
      f.child = if e.step = d.step then new else e.child := by
  by_cases hstep : e.step = d.step
  · obtain ⟨-, hrebuild⟩ := hd.eq_of_step he hstep
    obtain ⟨f, hf, hfstep, hfchild, hfrest, -⟩ := he.rebuild_self new
    rw [hrebuild] at hf
    rw [if_pos hstep]
    exact ⟨f, hf, hfstep, hfrest, hfchild⟩
  · obtain ⟨f, hf, hfstep, hfchild, hfrest⟩ := hd.rebuild_of_ne hi he hstep new
    rw [if_neg hstep]
    exact ⟨f, hf, hfstep, hfrest, hfchild⟩

/-- What is found from the next part on, in the new one or beside it, is found in all of the
value again. -/
theorem Finds.rebuild {d e : Descent} (hi : h.Independent) (hd : Descends h p d)
    (he : Descends h q e) (halone : h.face.Unambiguous) (new : Host)
    (hrest : Finds (if e.step = d.step then new else e.child) e.rest place value) :
    Finds (d.rebuild new) q (e.step :: place) value := by
  obtain ⟨f, hf, hfstep, hfrest, hfchild⟩ := hd.after_rebuild hi he new
  rw [← hfstep]
  refine .into hf ?_ ?_
  · rw [hd.face_rebuild]
    exact halone
  · rw [hfchild, hfrest]
    exact hrest

/-- What is found in a map that has got another key: what was found before. -/
theorem Finds.put {kind : MapKind} {type : EntryType} {entries : List (String × Host)}
    {segment : String} (hnone : entry? entries segment = none)
    (hq : Finds (.map kind type entries) q place value) (new : Host) :
    Finds (.map kind type (Sorted.put segment new entries)) q place value := by
  cases hq with
  | ends hvalue => exact .ends hvalue
  | into he halone hrest =>
      cases he with
      | entry hentry =>
          obtain ⟨j, hj, -⟩ := entry?_put_of_ne hnone hentry new
          refine finds_entry hj ?_ hrest
          cases kind with
          | ordered => trivial
          | hashed => exact pairwise_apart_put halone hnone new

/-- No path goes down into a scalar. -/
theorem not_descends_of_scalar {d : Descent} {kind : Kind}
    (hscalar : h.value?.bind Value.scalar? = some kind) : ¬Descends h p d := by
  intro hd
  cases hd <;> cases hscalar

/-- **A write leaves other places alone**, whether it succeeds or not: a path leads where it
led, and unless the write leads there too, it reads what it read. -/
theorem Finds.write (hq : Finds h q place value) (hi : h.Independent) (catalog : Catalog)
    (text : String) (p : List String) :
    ∃ value', Finds (h.write catalog text p).host q place value' ∧
      (¬Leads h p place → value' = value) := by
  induction h, p using descent_induction catalog generalizing q place value with
  | hstep h p ih _ =>
      have hwrote := wrote_write catalog text h p
      generalize h.write catalog text p = written at hwrote ⊢
      cases hwrote with
      | @into _ _ d hd =>
          cases hq with
          | ends hvalue => exact ⟨value, .ends ((hd.value?_rebuild _).trans hvalue), fun _ => rfl⟩
          | @into _ _ e place _ he halone hrest =>
              by_cases hstep : e.step = d.step
              -- Both paths go down together; whether they part further on, the part tells.
              · rw [(hd.eq_of_step he hstep).1] at hrest
                obtain ⟨value', hfinds, hsame⟩ := ih d hd hrest (hd.independent hi)
                refine ⟨value', Finds.rebuild hi hd he halone _ ?_, ?_⟩
                · rw [if_pos hstep]
                  exact hfinds
                · intro hne
                  refine hsame (fun hp => hne ?_)
                  rw [hstep]
                  exact .into hd hp
              · refine ⟨value, Finds.rebuild hi hd he halone _ ?_, fun _ => rfl⟩
                rw [if_neg hstep]
                exact hrest
      | filled hempty =>
          cases hq with
          | ends hvalue => cases hvalue
          | into he => cases he
      | assigned hold hnew hcoerces =>
          -- The scalar that is assigned is all that could be found here.
          obtain ⟨old, hvalue, -⟩ := Option.bind_eq_some_iff.1 hold
          cases hq with
          | ends => exact ⟨_, .ends hnew, fun hne => absurd (.ends hvalue) hne⟩
          | into he => exact absurd he (not_descends_of_scalar hold)
      | created hnone hmake => exact ⟨value, hq.put hnone _, fun _ => rfl⟩
      | refused e => exact ⟨value, hq, fun _ => rfl⟩

/-! ## §4. Clears. -/

/-- What is found in a map that an entry has been taken out of: what was found before, unless
that was in the entry. -/
theorem Finds.eraseIdx {kind : MapKind} {type : EntryType} {entries : List (String × Host)}
    {i : Nat} {key : String} {child : Host} (hremoved : entries[i]? = some (key, child))
    (hq : Finds (.map kind type entries) q place value) (hne : ¬[.key key] <+: place) :
    Finds (.map kind type (entries.eraseIdx i)) q place value := by
  cases hq with
  | ends hvalue => exact .ends hvalue
  | into he halone hrest =>
      cases he with
      | @entry _ _ _ _ key' _ _ _ hentry =>
          have hother : key' ≠ key := by
            rintro rfl
            exact hne (List.cons_prefix_cons.2 ⟨rfl, List.nil_prefix⟩)
          obtain ⟨k, hk⟩ := entry?_eraseIdx_of_ne hremoved hentry hother
          refine finds_entry hk ?_ hrest
          cases kind with
          | ordered => trivial
          | hashed =>
              have hkeys := (List.eraseIdx_sublist entries i).map (·.1)
              exact List.Pairwise.sublist hkeys halone

/-- **A clear leaves alone what is not below the place that it resets.** -/
theorem Finds.clear (hq : Finds h q place value) (hi : h.Independent) (p : List String)
    (hne : ∀ reset, Resets h p reset → ¬reset <+: place) :
    Finds (h.clear p).host q place value := by
  induction h, p using descent_induction [] generalizing q place with
  | hstep h p ih _ =>
      -- Where all of the value is reset, every place in it is below that.
      have hwhole (hreset : Resets h p []) : False := hne [] hreset List.nil_prefix
      have hcleared := cleared_clear h p
      generalize h.clear p = result at hcleared ⊢
      cases hcleared with
      | @into _ _ d hd hgoes =>
          cases hq with
          | ends hvalue => exact .ends ((hd.value?_rebuild _).trans hvalue)
          | @into _ _ e place _ he halone hrest =>
              by_cases hstep : e.step = d.step
              · rw [(hd.eq_of_step he hstep).1] at hrest
                refine Finds.rebuild hi hd he halone _ ?_
                rw [if_pos hstep]
                -- What is reset below the part is reset below the value around it.
                refine ih d hd hrest (hd.independent hi) ?_
                intro reset hreset hinside
                refine hne (d.step :: reset) (.into hd hgoes hreset) ?_
                rw [hstep]
                exact List.cons_prefix_cons.2 ⟨rfl, hinside⟩
              · refine Finds.rebuild hi hd he halone _ ?_
                rw [if_neg hstep]
                exact hrest
      | reset hvalue => exact (hwhole (.ends hvalue)).elim
      | emptied => exact (hwhole .optional).elim
      | removed hentry => exact hq.eraseIdx (entry?_eq_some_iff.1 hentry).2 (hne _ (.entry hentry))
      | kept => exact hq
      | refused e => exact hq

end

/-! ## §5. Other orders. -/

/-- The second value is the first one with the entries of hashed maps listed in another
order, anywhere in it and any number of times. -/
inductive Rearranged : Host → Host → Prop
  | refl (h : Host) : Rearranged h h
  | trans {h after last : Host} (hfirst : Rearranged h after) (hlast : Rearranged after last) :
      Rearranged h last
  | hashed {type : EntryType} {entries entries' : List (String × Host)}
      (hperm : entries.Perm entries') :
      Rearranged (.map .hashed type entries) (.map .hashed type entries')
  | cell {layout : Layout} {cells : List Host} {i : Nat} {child child' : Host}
      (hcell : cells[i]? = some child) (hchild : Rearranged child child') :
      Rearranged (.record layout cells) (.record layout (cells.set i child'))
  | fixedCell {layout : Layout} {cells : List Host} {i : Nat} {child child' : Host}
      (hcell : cells[i]? = some child) (hchild : Rearranged child child') :
      Rearranged (.fixed layout cells) (.fixed layout (cells.set i child'))
  | entry {kind : MapKind} {type : EntryType} {entries : List (String × Host)} {i : Nat}
      {key : String} {child child' : Host} (hentry : entries[i]? = some (key, child))
      (hchild : Rearranged child child') :
      Rearranged (.map kind type entries) (.map kind type (entries.set i (key, child')))
  | element {element : Shape} {items : List Host} {i : Nat} {item item' : Host}
      (hitem : items[i]? = some item) (hchild : Rearranged item item') :
      Rearranged (.sequence element items) (.sequence element (items.set i item'))
  | content {inner : Shape} {content content' : Host} (hchild : Rearranged content content') :
      Rearranged (.present inner content) (.present inner content')

/-- Where no two keys are the same up to case, an entry is found in whatever order they
are. -/
theorem entry?_perm {entries entries' : List (String × Host)} {segment key : String} {i : Nat}
    {child : Host} (halone : (entries.map (·.1)).Pairwise Apart)
    (hperm : entries.Perm entries') (hentry : entry? entries segment = some (i, key, child)) :
    ∃ j, entry? entries' segment = some (j, key, child) := by
  have hmem : (key, child) ∈ entries' :=
    hperm.mem_iff.1 (List.mem_of_getElem? (entry?_eq_some_iff.1 hentry).2)
  have hsame := sameName_entryKey hentry
  cases hfound : entry? entries' segment with
  | none =>
      rw [entry?_eq_none_iff.1 hfound _ hmem] at hsame
      cases hsame
  | some found =>
      obtain ⟨j, other, child'⟩ := found
      have hmem' : (other, child') ∈ entries' :=
        List.mem_of_getElem? (entry?_eq_some_iff.1 hfound).2
      have halone' : entries'.Pairwise fun entry other => Apart entry.1 other.1 :=
        List.pairwise_map.1 (((hperm.map (·.1)).pairwise_iff Apart.symm).1 halone)
      -- Two entries under one name would be two keys that are the same up to case.
      have heq : (key, child) = (other, child') := by
        by_contra hne
        have hsymm : Std.Symm fun entry other : String × Host => Apart entry.1 other.1 :=
          ⟨fun _ _ h => Apart.symm h⟩
        have hapart : Apart key other := halone'.forall hmem hmem' hne
        have hboth := Text.sameName_trans hsame
          (Text.sameName_comm other segment ▸ sameName_entryKey hfound)
        rw [show Text.sameName key other = false from hapart] at hboth
        cases hboth
      cases heq
      exact ⟨j, rfl⟩

/-- An item of a list in which one has been rearranged is what it was, rearranged. -/
theorem Rearranged.getElem?_set {items : List Host} {i j : Nat} {item item' found : Host}
    (hsame : Rearranged item item') (hitem : items[i]? = some item)
    (hfound : items[j]? = some found) :
    ∃ found', (items.set i item')[j]? = some found' ∧ Rearranged found found' := by
  rcases getElem?_set_cases hitem item' j with hkept | ⟨hold, hnew⟩
  · exact ⟨found, hkept.trans hfound, .refl found⟩
  · rw [hfound] at hold
    cases hold
    exact ⟨item', hnew, hsame⟩

/-- The same for the entries of a map. -/
theorem Rearranged.entry?_set {entries : List (String × Host)} {segment key key' : String}
    {i j : Nat} {child child' found : Host} (hsame : Rearranged child child')
    (hentry : entries[i]? = some (key, child))
    (hfound : entry? entries segment = some (j, key', found)) :
    ∃ found', entry? (entries.set i (key, child')) segment = some (j, key', found') ∧
      Rearranged found found' := by
  obtain ⟨hfind, hplace⟩ := entry?_eq_some_iff.1 hfound
  rw [← findIdx?_set hentry child'] at hfind
  by_cases hij : i = j
  · subst hij
    rw [hentry] at hplace
    cases hplace
    have hlt := (List.getElem?_eq_some_iff.1 hentry).1
    exact ⟨child', entry?_eq_some_iff.2 ⟨hfind, List.getElem?_set_self hlt⟩, hsame⟩
  · refine ⟨found, entry?_eq_some_iff.2 ⟨hfind, ?_⟩, .refl found⟩
    rw [List.getElem?_set_ne hij]
    exact hplace

section
variable {h after : Host} {q : List String} {e : Descent} {place : List Step} {value : Value}

theorem Rearranged.value?_eq (hsame : Rearranged h after) : after.value? = h.value? := by
  induction hsame with
  | trans hfirst hlast ih ih' => exact ih'.trans ih
  | refl | hashed | cell | fixedCell | entry | element | content => rfl

theorem Rearranged.unambiguous (hsame : Rearranged h after) (halone : h.face.Unambiguous) :
    after.face.Unambiguous := by
  induction hsame with
  | refl => exact halone
  | trans hfirst hlast ih ih' => exact ih' (ih halone)
  | hashed hperm =>
      have hkeys := hperm.map (·.1)
      exact (hkeys.pairwise_iff Apart.symm).1 halone
  | @entry kind type entries i key child child' hentry =>
      have hface : (Host.map kind type (entries.set i (key, child'))).face
          = (Host.map kind type entries).face := congrArg (Face.map _ _) (map_fst_set hentry child')
      rw [hface]
      exact halone
  | cell | fixedCell | element | content => trivial

/-- **A path goes down alike** in whatever order hashed maps list their entries. -/
theorem Rearranged.descends (hsame : Rearranged h after) (halone : h.face.Unambiguous)
    (he : Descends h q e) :
    ∃ f, Descends after q f ∧ f.step = e.step ∧ f.rest = e.rest ∧ Rearranged e.child f.child := by
  induction hsame generalizing e with
  | refl => exact ⟨e, he, rfl, rfl, .refl _⟩
  | trans hfirst hlast ih ih' =>
      obtain ⟨f, hf, hfstep, hfrest, hfchild⟩ := ih halone he
      obtain ⟨g, hg, hgstep, hgrest, hgchild⟩ := ih' (hfirst.unambiguous halone) hf
      exact ⟨g, hg, hgstep.trans hfstep, hgrest.trans hfrest, .trans hfchild hgchild⟩
  | hashed hperm =>
      cases he with
      | entry hentry =>
          obtain ⟨j, hj⟩ := entry?_perm halone hperm hentry
          exact ⟨_, .entry hj, rfl, rfl, .refl _⟩
  | cell hcell hchild =>
      cases he with
      | field hslot hfound =>
          obtain ⟨found, hnew, hsame⟩ := hchild.getElem?_set hcell hfound
          exact ⟨_, .field hslot hnew, rfl, rfl, hsame⟩
  | fixedCell hcell hchild =>
      cases he with
      | fixedKey hslot hfound =>
          obtain ⟨found, hnew, hsame⟩ := hchild.getElem?_set hcell hfound
          exact ⟨_, .fixedKey hslot hnew, rfl, rfl, hsame⟩
  | entry hentry hchild =>
      cases he with
      | entry hfound =>
          obtain ⟨found, hnew, hsame⟩ := hchild.entry?_set hentry hfound
          exact ⟨_, .entry hnew, rfl, rfl, hsame⟩
  | @element _ _ i _ _ hitem hchild =>
      cases he with
      | first =>
          cases i with
          | zero =>
              cases hitem
              exact ⟨_, .first, rfl, rfl, hchild⟩
          | succ i => exact ⟨_, .first, rfl, rfl, .refl _⟩
      | element hposition hfound =>
          obtain ⟨found, hnew, hsame⟩ := hchild.getElem?_set hitem hfound
          exact ⟨_, .element hposition hnew, rfl, rfl, hsame⟩
  | content hchild =>
      cases he with
      | content => exact ⟨_, .content, rfl, rfl, hchild⟩

/-- **No path notices in which order hashed maps list their entries.** -/
theorem Finds.rearranged (hq : Finds h q place value) (hsame : Rearranged h after) :
    Finds after q place value := by
  induction hq generalizing after with
  | ends hvalue => exact .ends (hsame.value?_eq.trans hvalue)
  | into he halone hrest ih =>
      obtain ⟨f, hf, hfstep, hfrest, hfchild⟩ := hsame.descends halone he
      rw [← hfstep]
      refine .into hf (hsame.unambiguous halone) ?_
      rw [hfrest]
      exact ih hfchild

end

end RuleScript.Host
