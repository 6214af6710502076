/-
  RuleScript.Proofs.Host.Lengths
  ──────────────────────────────
  **Lengths of sequences.**

  Scripts neither add elements to a sequence nor take them out.  A write leaves every
  sequence where it was and as long as it was; a clear may take a sequence away with
  the entry or the optional that it is in, and leaves the others as long as they were.
  A sequence that a write makes has one element, at every level, unless it comes with
  an empty record: then it is as long as it is in that (`NewSize`).

  Main results:
    • `Writes.keeps_alike` — sequences that there were, after a write.
    • `Writes.new_size` — sequences that there were not.
    • `Clears.kept_alike` — sequences after a clear.
-/
import RuleScript.Proofs.Host.Typing

namespace RuleScript.Host

/-! ## §1. Values of one type and length. -/

/-- Two values are of one type and, if they are sequences, of one length. -/
structure Alike (h after : Host) : Prop where
  shape : after.shape = h.shape
  size : after.size? = h.size?

theorem Alike.refl (h : Host) : Alike h h := ⟨rfl, rfl⟩

theorem Alike.symm {h after : Host} (halike : Alike h after) : Alike after h :=
  ⟨halike.shape.symm, halike.size.symm⟩

theorem Descends.alike_rebuild {h : Host} {path : List String} {d : Descent}
    (hd : Descends h path d) (new : Host) : Alike h (d.rebuild new) := by
  refine ⟨hd.shape_rebuild new, ?_⟩
  rw [size?_eq_length?_face, size?_eq_length?_face, hd.face_rebuild]

theorem alike_cleared (h : Host) : Alike h h.cleared := by
  refine ⟨shape_cleared h, ?_⟩
  unfold cleared
  split <;> rfl

theorem size?_of_scalar {h : Host} {kind : Kind}
    (hscalar : h.value?.bind Value.scalar? = some kind) : h.size? = none := by
  cases h with
  | string | integer | boolean | bytes => rfl
  | record | fixed | map | sequence | absent | present => cases hscalar

/-! ## §2. Writes. -/

/-- How long a sequence is that is in the empty value of a type: there is one element on every
level of a sequence, and what is in a record is as in the empty record of that type. -/
inductive EmptySize (catalog : Catalog) : Shape → List Step → Nat → Prop
  | level {element : Shape} : EmptySize catalog (.sequence element) [] 1
  | deeper {element : Shape} {place : List Step} {size : Nat}
      (hitem : EmptySize catalog element place size) :
      EmptySize catalog (.sequence element) (.index 0 :: place) size
  | record {name : String} {record part : Host} {place : List Step} {size : Nat}
      (hrecord : catalog.find? name = some record) (hpart : record.at? place = some part)
      (hsize : part.size? = some size) : EmptySize catalog (.record name) place size

/-- How a sequence comes to be at a place where there was nothing, and how long it is then. -/
inductive NewSize (catalog : Catalog) : Host → Host → List Step → Nat → Prop
  /-- It is under a key that has been put in, and has one element. -/
  | inserted {h after : Host} {key : String} {place : List Step}
      (hnew : h.part? (.key key) = none) : NewSize catalog h after (.key key :: place) 1
  /-- It has come with the empty value that fills an optional. -/
  | came {inner : Shape} {after : Host} {place : List Step} {size : Nat}
      (hsize : EmptySize catalog inner place size) :
      NewSize catalog (.absent inner) after (.content :: place) size
  /-- It is new in the value that fills an optional. -/
  | filled {inner : Shape} {content after : Host} {place : List Step} {size : Nat}
      (hempty : inner.empty? catalog = some content) (hnone : content.at? place = none)
      (hrest : NewSize catalog content after place size) :
      NewSize catalog (.absent inner) (.present inner after) (.content :: place) size
  /-- It is new in a part that there was. -/
  | part {h after child child' : Host} {step : Step} {place : List Step} {size : Nat}
      (hold : h.part? step = some child) (hnew : after.part? step = some child')
      (hrest : NewSize catalog child child' place size) :
      NewSize catalog h after (step :: place) size

/-- No sequence is in a scalar. -/
theorem size?_at_scalar {h part : Host} {kind : Kind}
    (hscalar : h.value?.bind Value.scalar? = some kind) {place : List Step}
    (hpart : h.at? place = some part) : part.size? = none := by
  cases place with
  | nil =>
      cases hpart
      exact size?_of_scalar hscalar
  | cons step place =>
      obtain ⟨child, hchild, -⟩ := at?_cons_cases hpart
      rw [part?_of_scalar hscalar] at hchild
      cases hchild

/-- What is in a sequence of one element is that sequence, or it is in the element. -/
theorem at?_singleton_cases {element : Shape} {item part : Host} {place : List Step}
    (hpart : (Host.sequence element [item]).at? place = some part) :
    (place = [] ∧ part = .sequence element [item]) ∨
      ∃ rest, place = .index 0 :: rest ∧ item.at? rest = some part := by
  cases place with
  | nil =>
      cases hpart
      exact .inl ⟨rfl, rfl⟩
  | cons step rest =>
      obtain ⟨child, hchild, hrest⟩ := at?_cons_cases hpart
      cases step with
      | index i =>
          cases i with
          | zero =>
              cases hchild
              exact .inr ⟨rest, rfl, hrest⟩
          | succ i => cases hchild
      | root | field | key | content => cases hchild

/-- **A sequence in an empty value** is as long as the type has it. -/
theorem emptySize_of_empty? {catalog : Catalog} {inner : Shape} {content part : Host}
    {place : List Step} {size : Nat} (hempty : inner.empty? catalog = some content)
    (hpart : content.at? place = some part) (hsize : part.size? = some size) :
    EmptySize catalog inner place size := by
  induction inner generalizing content place with
  | map kind type =>
      cases hempty
      cases place with
      | nil =>
          cases hpart
          cases hsize
      | cons step place =>
          obtain ⟨child, hchild, -⟩ := at?_cons_cases hpart
          cases step <;> cases hchild
  | record name => exact .record hempty hpart hsize
  | sequence element ih =>
      obtain ⟨item, hitem, rfl⟩ := Option.map_eq_some_iff.1 hempty
      rcases at?_singleton_cases hpart with ⟨rfl, rfl⟩ | ⟨rest, rfl, hrest⟩
      · cases hsize
        exact .level
      · exact .deeper (ih hitem hrest)
  | string | integer | boolean | bytes | optional => cases hempty

/-- A sequence in an entry that a text makes has one element. -/
theorem size_of_make {type : EntryType} {text : String} {new part : Host} {place : List Step}
    {size : Nat} (hmake : type.make text = .ok new) (hpart : new.at? place = some part)
    (hsize : part.size? = some size) : size = 1 := by
  have hscalar {h : Host} {kind : Kind} (hkind : h.value?.bind Value.scalar? = some kind)
      {place : List Step} (hat : h.at? place = some part) : size = 1 := by
    rw [size?_at_scalar hkind hat] at hsize
    cases hsize
  rcases make_cases hmake with ⟨value, hvalue, hcoerces, -⟩ | ⟨-, rfl⟩
  · exact hscalar (scalar_of_assigned hvalue hcoerces) hpart
  · rcases at?_singleton_cases hpart with ⟨-, rfl⟩ | ⟨rest, -, hrest⟩
    · cases hsize
      rfl
    · exact hscalar rfl hrest

section
variable {catalog : Catalog} {text : String} {h after : Host} {path : List String}

/-- **A write leaves everything in its place**, of its type and length. -/
theorem Writes.keeps_alike (hwrites : Writes catalog text h path after) :
    Keeps Alike h after := by
  induction hwrites with
  | into hd hrest ih => exact hd.keeps_rebuild .refl (hd.alike_rebuild _) ih
  | filled hempty hrest ih =>
      exact keeps_of_part?_none (fun step => by cases step <;> rfl) ⟨rfl, rfl⟩
  | @assigned old new _ _ hold hnew hcoerces =>
      refine keeps_of_part?_none (part?_of_scalar hold) ⟨?_, ?_⟩
      · exact Writes.shape_eq (.assigned hold hnew hcoerces : Writes catalog text old [] new)
      · rw [size?_of_scalar hold, size?_of_scalar (scalar_of_assigned hnew hcoerces)]
  | created hnone hmake =>
      intro place part hpart
      cases place with
      | nil =>
          cases hpart
          exact ⟨_, at?_nil _, rfl, rfl⟩
      | cons step place =>
          obtain ⟨child, hchild, hrest⟩ := at?_cons_cases hpart
          exact ⟨part, (at?_cons (part?_put hnone hchild _) place).trans hrest, .refl part⟩
  | refused => exact .refl .refl _

/-- **A sequence that a write has made** is as long as the way it came to be says. -/
theorem Writes.new_size (hwrites : Writes catalog text h path after) {place : List Step}
    {part : Host} {size : Nat} (hnone : h.at? place = none) (hpart : after.at? place = some part)
    (hsize : part.size? = some size) : NewSize catalog h after place size := by
  induction hwrites generalizing place with
  | @into h child' path d hd hrest ih =>
      cases place with
      | nil => cases hnone
      | cons step place =>
          rcases hd.part?_rebuild child' step with hsame | ⟨hold, hnew⟩
          · rw [at?_congr hsame, hnone] at hpart
            cases hpart
          · rw [at?_cons hold] at hnone
            rw [at?_cons hnew] at hpart
            exact .part hold hnew (ih hnone hpart)
  | @filled inner content content' path hempty hrest ih =>
      cases place with
      | nil => cases hnone
      | cons step place =>
          obtain ⟨child, hchild, hinner⟩ := at?_cons_cases hpart
          have hstep : step = .content ∧ child = content' := by
            cases step <;> cases hchild
            exact ⟨rfl, rfl⟩
          obtain ⟨rfl, rfl⟩ := hstep
          -- It has been made in what fills the optional, or was there when that was empty.
          cases hold : content.at? place with
          | none => exact .filled hempty hold (ih hold hinner)
          | some old =>
              obtain ⟨part', hpart', halike⟩ := hrest.keeps_alike place old hold
              rw [hinner] at hpart'
              cases hpart'
              exact .came (emptySize_of_empty? hempty hold (halike.size.symm.trans hsize))
  | assigned hold hnew hcoerces =>
      cases place with
      | nil => cases hnone
      | cons step place =>
          obtain ⟨child, hchild, -⟩ := at?_cons_cases hpart
          rw [part?_of_scalar (scalar_of_assigned hnew hcoerces)] at hchild
          cases hchild
  | @created kind type entries segment new hentry hmake =>
      cases place with
      | nil => cases hnone
      | cons step place =>
          obtain ⟨child, hchild, hpart⟩ := at?_cons_cases hpart
          rcases part?_put_cases kind type entries segment new step with hsame | ⟨rfl, hnew⟩
          · rw [hsame] at hchild
            rw [at?_cons hchild, hpart] at hnone
            cases hnone
          · rw [hnew] at hchild
            cases hchild
            cases size_of_make hmake hpart hsize
            refine .inserted ?_
            -- A key that no segment finds is not stored.
            cases hstored : (Host.map kind type entries).part? (.key segment) with
            | none => rfl
            | some child =>
                exact absurd rfl (ne_of_entry?_none hentry _ (mem_of_lookup hstored))
  | refused =>
      rw [hnone] at hpart
      cases hpart

end

/-! ## §3. Clears. -/

/-- What is in a cleared value was in it before, of the same type and length. -/
theorem kept_cleared (h : Host) : Keeps Alike h.cleared h := by
  intro place
  induction place generalizing h with
  | nil =>
      intro part hpart
      cases hpart
      exact ⟨h, at?_nil _, (alike_cleared h).symm⟩
  | cons step place ih =>
      intro part hpart
      obtain ⟨child', hchild', hrest⟩ := at?_cons_cases hpart
      obtain ⟨child, hchild, rfl | rfl⟩ := part?_cleared hchild'
      · exact ⟨part, (at?_cons hchild place).trans hrest, .refl part⟩
      · rw [at?_cons hchild]
        exact ih child part hrest

section
variable {schema : Schema} {h after : Host} {path : List String}

/-- **A clear makes nothing, and no sequence longer or shorter**: whatever is there
afterwards was there before. -/
theorem Clears.kept_alike (hclears : Clears h path after) (htyped : h.Typed schema) :
    Keeps Alike after h := by
  induction hclears with
  | into hd hrest ih =>
      exact hd.keeps_of_rebuild .refl (hd.alike_rebuild _).symm (ih (hd.typed htyped))
  | reset hvalue => exact kept_cleared _
  | emptied => exact keeps_of_part?_none (fun step => by cases step <;> rfl) ⟨rfl, rfl⟩
  | removed hentry =>
      intro place part hpart
      cases place with
      | nil =>
          cases hpart
          exact ⟨_, at?_nil _, rfl, rfl⟩
      | cons step place =>
          obtain ⟨child, hchild, hrest⟩ := at?_cons_cases hpart
          exact ⟨part, (at?_cons (htyped.part?_of_eraseIdx hchild) place).trans hrest, .refl part⟩
  | kept => exact .refl .refl _

end

end RuleScript.Host
