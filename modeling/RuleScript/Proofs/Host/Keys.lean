/-
  RuleScript.Proofs.Host.Keys
  ───────────────────────────
  **Keys that differ in case only.**

  A segment names a key in any case, and the first one that it names counts.  So a key
  is created only where no stored key is the same up to case, and where the keys of
  every container have been distinct, they stay so.

  Main results:
    • `Writes.distinct` / `Clears.distinct` — keys stay distinct.
-/
import RuleScript.Proofs.Host.Typing

namespace RuleScript.Host

/-! ## §1. Distinct keys. -/

/-- Of two keys, neither names the other. -/
def Apart (key other : String) : Prop := Text.sameName key other = false

instance : DecidableRel Apart :=
  fun key other => inferInstanceAs (Decidable (Text.sameName key other = false))

theorem Apart.symm {key other : String} (h : Apart key other) : Apart other key := by
  unfold Apart at h ⊢
  rw [Text.sameName_comm]
  exact h

/-- No two keys are the same up to case, if this is the face of a map. -/
def Face.Distinct : Face → Prop
  | .map _ _ keys => keys.Pairwise Apart
  | _ => True

/-- No map in the value has two keys that are the same up to case. -/
def Distinct (h : Host) : Prop := h.Everywhere fun part => part.face.Distinct

/-- The same for the empty records. -/
def Catalog.Distinct (catalog : Catalog) : Prop :=
  ∀ blueprint ∈ catalog, (Host.record blueprint.layout blueprint.cells).Distinct

section
variable {h new : Host} {path : List String} {d : Descent}

theorem Descends.distinct (hd : Descends h path d) (hdistinct : h.Distinct) :
    d.child.Distinct :=
  Everywhere.part hdistinct hd.part?_eq

theorem Descends.distinct_rebuild (hd : Descends h path d) (hdistinct : h.Distinct)
    (hnew : new.Distinct) : (d.rebuild new).Distinct := by
  refine hd.everywhere_rebuild ?_ hdistinct hnew
  rw [hd.face_rebuild]
  exact Everywhere.self hdistinct

end

/-- A value without parts has distinct keys. -/
theorem distinct_of_part?_none {h : Host} (hface : h.face.Distinct)
    (hnone : ∀ step, h.part? step = none) : h.Distinct := by
  refine everywhere_of_parts hface (fun step child hchild => ?_)
  rw [hnone] at hchild
  cases hchild

theorem distinct_of_scalar {h : Host} {kind : Kind}
    (hscalar : h.value?.bind Value.scalar? = some kind) : h.Distinct := by
  refine distinct_of_part?_none ?_ (part?_of_scalar hscalar)
  cases h with
  | string | integer | boolean | bytes => trivial
  | record | fixed | map | sequence | absent | present => cases hscalar

/-- A sequence has distinct keys if its elements have. -/
theorem distinct_sequence {element : Shape} {items : List Host}
    (hitems : ∀ item ∈ items, item.Distinct) : (Host.sequence element items).Distinct := by
  refine everywhere_of_parts trivial (fun step child hchild => ?_)
  cases step with
  | index i => exact hitems child (List.mem_of_getElem? hchild)
  | root | field | key | content => cases hchild

/-- A map has distinct keys if they are apart and what it holds has distinct ones. -/
theorem distinct_map {kind : MapKind} {type : EntryType} {entries : List (String × Host)}
    (hkeys : (entries.map (·.1)).Pairwise Apart) (hentries : ∀ entry ∈ entries, entry.2.Distinct) :
    (Host.map kind type entries).Distinct := by
  refine everywhere_of_parts hkeys (fun step child hchild => ?_)
  cases step with
  | key key => exact hentries _ (mem_of_lookup hchild)
  | root | field | index | content => cases hchild

theorem distinct_present {inner : Shape} {content : Host} (hcontent : content.Distinct) :
    (Host.present inner content).Distinct := by
  refine everywhere_of_parts trivial (fun step child hchild => ?_)
  cases step with
  | content =>
      cases hchild
      exact hcontent
  | root | field | key | index => cases hchild

/-! ## §2. New values. -/

theorem Catalog.Distinct.empty? {catalog : Catalog} (hcatalog : catalog.Distinct)
    {inner : Shape} {content : Host} (hempty : inner.empty? catalog = some content) :
    content.Distinct := by
  refine empty?_induction ?_ hcatalog ?_ hempty
  · intro kind type
    exact distinct_of_part?_none .nil (fun step => by cases step <;> rfl)
  · intro element item _ hitem
    exact distinct_sequence (List.forall_mem_singleton.2 hitem)

theorem distinct_of_make {type : EntryType} {text : String} {new : Host}
    (hmake : type.make text = .ok new) : new.Distinct := by
  rcases make_cases hmake with ⟨value, hvalue, hcoerces, -⟩ | ⟨-, rfl⟩
  · exact distinct_of_scalar (scalar_of_assigned hvalue hcoerces)
  · refine distinct_sequence (fun item hmem => ?_)
    rw [List.mem_singleton.1 hmem]
    exact distinct_of_scalar rfl

/-- A key that is created is apart from those that there are. -/
theorem pairwise_apart_put {entries : List (String × Host)} {segment : String}
    (hkeys : (entries.map (·.1)).Pairwise Apart) (hnone : entry? entries segment = none)
    (new : Host) : ((Sorted.put segment new entries).map (·.1)).Pairwise Apart := by
  have hperm := (Sorted.perm_put (ne_of_entry?_none hnone) new).symm
  refine ((hperm.map (·.1)).pairwise_iff Apart.symm).1 (List.pairwise_cons.2 ⟨?_, hkeys⟩)
  intro key hmem
  obtain ⟨entry, hentry, rfl⟩ := List.mem_map.1 hmem
  exact Apart.symm (entry?_eq_none_iff.1 hnone entry hentry)

theorem distinct_put {kind : MapKind} {type : EntryType} {entries : List (String × Host)}
    {segment : String} {new : Host} (hdistinct : (Host.map kind type entries).Distinct)
    (hnone : entry? entries segment = none) (hnew : new.Distinct) :
    (Host.map kind type (Sorted.put segment new entries)).Distinct := by
  refine everywhere_of_parts ?_ (fun step child hchild => ?_)
  · exact pairwise_apart_put (Everywhere.self hdistinct) hnone new
  · rcases part?_put_cases kind type entries segment new step with hsame | ⟨-, hmade⟩
    · rw [hsame] at hchild
      exact Everywhere.part hdistinct hchild
    · rw [hmade] at hchild
      cases hchild
      exact hnew

/-! ## §3. Writes and clears. -/

/-- **A write keeps keys distinct.** -/
theorem Writes.distinct {catalog : Catalog} {text : String} {h after : Host}
    {path : List String} (hwrites : Writes catalog text h path after)
    (hcatalog : catalog.Distinct) (hdistinct : h.Distinct) : after.Distinct := by
  induction hwrites with
  | into hd hrest ih => exact hd.distinct_rebuild hdistinct (ih (hd.distinct hdistinct))
  | filled hempty hrest ih => exact distinct_present (ih (hcatalog.empty? hempty))
  | assigned hold hnew hcoerces => exact distinct_of_scalar (scalar_of_assigned hnew hcoerces)
  | created hnone hmake => exact distinct_put hdistinct hnone (distinct_of_make hmake)
  | refused => exact hdistinct

theorem Face.distinct_cleared {h : Host} (hface : h.face.Distinct) : h.cleared.face.Distinct := by
  cases h with
  | map kind type entries =>
      rw [cleared]
      exact .nil
  | sequence element items => cases items <;> (rw [cleared]; trivial)
  | string | integer | boolean | bytes | record | fixed | absent | present =>
      rw [cleared]
      trivial

theorem Distinct.cleared {h : Host} (hdistinct : h.Distinct) : h.cleared.Distinct := by
  intro place
  induction place generalizing h with
  | nil =>
      intro part hpart
      cases hpart
      exact Face.distinct_cleared (Everywhere.self hdistinct)
  | cons step place ih =>
      intro part hpart
      obtain ⟨child', hchild', hrest⟩ := at?_cons_cases hpart
      obtain ⟨child, hchild, rfl | rfl⟩ := part?_cleared hchild'
      · exact Everywhere.part hdistinct hchild place part hrest
      · exact ih (Everywhere.part hdistinct hchild) part hrest

/-- **A clear keeps keys distinct.** -/
theorem Clears.distinct {schema : Schema} {h after : Host} {path : List String}
    (hclears : Clears h path after) (htyped : h.Typed schema) (hdistinct : h.Distinct) :
    after.Distinct := by
  induction hclears with
  | into hd hrest ih =>
      exact hd.distinct_rebuild hdistinct (ih (hd.typed htyped) (hd.distinct hdistinct))
  | reset hvalue => exact hdistinct.cleared
  | emptied => exact distinct_of_part?_none trivial (fun step => by cases step <;> rfl)
  | @removed kind type entries segment key i child hentry =>
      refine everywhere_of_parts ?_ (fun step child hchild => ?_)
      · have hkeys : (entries.map (·.1)).Pairwise Apart := Everywhere.self hdistinct
        exact hkeys.sublist ((List.eraseIdx_sublist entries i).map (·.1))
      · exact Everywhere.part hdistinct (htyped.part?_of_eraseIdx hchild)
  | kept => exact hdistinct

end RuleScript.Host
