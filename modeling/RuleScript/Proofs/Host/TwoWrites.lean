/-
  RuleScript.Proofs.Host.TwoWrites
  ────────────────────────────────
  **Two writes into one value.**

  A write that succeeds assigns one place: it goes down to it, fills the absent
  optionals in front of it, and puts in the key that it is under if that is not there.
  Two writes meet in what they fill and in the maps that they put keys into.  The
  second one finds filled what the first one has filled, with the same empty value that
  it would have filled in itself; and a key that has been put in hides no other key.  So
  the second write comes to the place that it would have come to alone.

  A key that is not there yet has no spelling of its own, and two paths that spell it in
  different cases mean one place.

  Main results:
    • `write_eq_iff_assigns` — the writes that succeed, along their paths.
    • `Assigns.overwrite` — a second write to the same place leaves nothing of the first.
    • `Assigns.swap` — writes to different places may be done in either order.
    • `two_writes` — both, said of the writes themselves.
-/
import RuleScript.Proofs.Host.Case
import RuleScript.Proofs.Host.Typing

namespace RuleScript.Host

/-! ## §1. Writes that succeed. -/

/-- The step to a key that is yet to be put in: the same for all spellings of the key.  No
key that is there has this name, as it would be found by that spelling too. -/
def newKey (segment : String) : Step := .key (Text.lowered segment)

theorem newKey_congr {segment segment' : String} (h : Text.sameName segment segment' = true) :
    newKey segment = newKey segment' :=
  congrArg Step.key (Text.lowered_congr h)

/-- A write that succeeds: the place that it assigns, and the value that it leaves. -/
inductive Assigns (catalog : Catalog) (text : String) :
    Host → List String → List Step → Host → Prop
  | into {h after : Host} {path : List String} {d : Descent} {place : List Step}
      (hd : Descends h path d) (hrest : Assigns catalog text d.child d.rest place after) :
      Assigns catalog text h path (d.step :: place) (d.rebuild after)
  | filled {inner : Shape} {content after : Host} {path : List String} {place : List Step}
      (hempty : inner.empty? catalog = some content)
      (hrest : Assigns catalog text content path place after) :
      Assigns catalog text (.absent inner) path (.content :: place) (.present inner after)
  | scalar {old new : Host} {kind : Kind} {value : Value}
      (hold : old.value?.bind Value.scalar? = some kind) (hnew : new.value? = some value)
      (hcoerces : Coerces text kind value) : Assigns catalog text old [] [] new
  | created {kind : MapKind} {type : EntryType} {entries : List (String × Host)}
      {segment : String} {new : Host} (hnone : entry? entries segment = none)
      (hmake : type.make text = .ok new) :
      Assigns catalog text (.map kind type entries) [segment] [newKey segment]
        (.map kind type (Sorted.put segment new entries))

section
variable {catalog : Catalog} {text : String} {h after : Host} {path : List String}
  {place : List Step}

/-- Where no key is the same up to case, a write puts one in. -/
theorem write_created {kind : MapKind} {type : EntryType} {entries : List (String × Host)}
    {segment : String} {new : Host} (hnone : entry? entries segment = none)
    (hmake : type.make text = .ok new) :
    (Host.map kind type entries).write catalog text [segment]
      = ⟨.map kind type (Sorted.put segment new entries), none⟩ := by
  rw [write]
  simp only [hnone, List.isEmpty_nil, if_true, hmake]

theorem Assigns.write_eq (hassigns : Assigns catalog text h path place after) :
    h.write catalog text path = ⟨after, none⟩ := by
  induction hassigns with
  | into hd hrest ih => rw [hd.write_eq, ih]
  | filled hempty hrest ih => rw [write_absent_some hempty, ih]
  | scalar hold hnew hcoerces => exact write_scalar hold hnew hcoerces
  | created hnone hmake => exact write_created hnone hmake

/-- Every write that succeeds assigns some place. -/
theorem assigns_of_ok (hok : (h.write catalog text path).failure = none) :
    ∃ place, Assigns catalog text h path place (h.write catalog text path).host := by
  induction h, path using descent_induction catalog with
  | hstep h path ih ihFilled =>
      have hwrote := wrote_write catalog text h path
      generalize h.write catalog text path = written at hok hwrote ⊢
      cases hwrote with
      | @into _ _ d hd =>
          obtain ⟨place, hplace⟩ := ih d hd hok
          exact ⟨_, .into hd hplace⟩
      | filled hempty =>
          obtain ⟨place, hplace⟩ := ihFilled _ _ rfl hempty hok
          exact ⟨_, .filled hempty hplace⟩
      | assigned hold hnew hcoerces => exact ⟨_, .scalar hold hnew hcoerces⟩
      | created hnone hmake => exact ⟨_, .created hnone hmake⟩
      | refused e => cases hok

/-- A write below a key that is there. -/
theorem Assigns.entry {kind : MapKind} {type : EntryType} {entries : List (String × Host)}
    {segment key : String} {i : Nat} {child : Host}
    (hentry : entry? entries segment = some (i, key, child))
    (hrest : Assigns catalog text child path place after) :
    Assigns catalog text (.map kind type entries) (segment :: path) (.key key :: place)
      (.map kind type (entries.set i (key, after))) :=
  .into (.entry hentry) hrest

/-- **The writes that succeed** are those that assign a place. -/
theorem write_eq_iff_assigns :
    h.write catalog text path = ⟨after, none⟩ ↔ ∃ place, Assigns catalog text h path place after := by
  constructor
  · intro hwrite
    have hassigns := @assigns_of_ok catalog text h path (by rw [hwrite])
    rwa [hwrite] at hassigns
  · rintro ⟨place, hassigns⟩
    exact hassigns.write_eq

/-- A write into a part is a write into the value around it, whatever that part was
before. -/
theorem Assigns.through {d : Descent} {child : Host} (hd : Descends h path d)
    (hrest : Assigns catalog text child d.rest place after) :
    Assigns catalog text (d.rebuild child) path (d.step :: place) (d.rebuild after) := by
  obtain ⟨e, he, hstep, hchild, herest, hrebuild⟩ := hd.rebuild_self child
  have hinto := Assigns.into he (by rwa [hchild, herest])
  rwa [hstep, hrebuild] at hinto

end

/-! ## §2. The same place twice. -/

/-- What a text has made takes another text, and is then what that would have made. -/
theorem assigns_of_make (catalog : Catalog) {type : EntryType} {v w : String} {old new : Host}
    (hold : type.make v = .ok old) (hnew : type.make w = .ok new) :
    ∃ place, Assigns catalog w old [] place new := by
  rcases make_cases hnew with ⟨value, hvalue, hcoerces, hscalar⟩ | ⟨rfl, rfl⟩
  · rcases make_cases hold with ⟨value', hvalue', hcoerces', -⟩ | ⟨hstrings, -⟩
    · exact ⟨_, .scalar (scalar_of_assigned hvalue' hcoerces') hvalue hcoerces⟩
    · exact absurd hstrings hscalar
  · cases hold
    exact ⟨_, .into .first (.scalar rfl rfl .string)⟩

/-- A path does not go down to a key that is not there. -/
theorem not_descends_of_none {kind : MapKind} {type : EntryType} {entries : List (String × Host)}
    {segment : String} {rest : List String} {d : Descent} (hnone : entry? entries segment = none) :
    ¬Descends (.map kind type entries) (segment :: rest) d := by
  intro hd
  cases hd with
  | entry hentry =>
      rw [hnone] at hentry
      cases hentry

/-- **The last write wins**: a second write on the same path assigns the same place, and
succeeds after the first one, and leaves what it would have left alone. -/
theorem Assigns.overwrite {catalog : Catalog} {v w : String} {h h₁ h₂ : Host}
    {path : List String} {place place' : List Step}
    (hv : Assigns catalog v h path place h₁) (hw : Assigns catalog w h path place' h₂) :
    place' = place ∧ ∃ again, Assigns catalog w h₁ path again h₂ := by
  -- Both go the same way, until the first write assigns a scalar or puts a key in.
  induction hv generalizing place' h₂ with
  | into hd hrest ih =>
      cases hw with
      | into hd' hrest' =>
          cases hd.unique hd'
          obtain ⟨rfl, again, hagain⟩ := ih hrest'
          exact ⟨rfl, _, .through hd hagain⟩
      | filled hempty => cases hd
      | scalar hold => cases hd <;> cases hold
      | created hnone => exact absurd hd (not_descends_of_none hnone)
  | filled hempty hrest ih =>
      cases hw with
      | into hd => cases hd
      | filled hempty' hrest' =>
          rw [hempty] at hempty'
          cases hempty'
          obtain ⟨rfl, again, hagain⟩ := ih hrest'
          exact ⟨rfl, _, .into .content hagain⟩
      | scalar hold => cases hold
  | scalar hold hnew hcoerces =>
      cases hw with
      | into hd => cases hd <;> cases hold
      | filled => cases hold
      | scalar hold' hnew' hcoerces' =>
          rw [hold] at hold'
          cases hold'
          exact ⟨rfl, _, .scalar (scalar_of_assigned hnew hcoerces) hnew' hcoerces'⟩
  | @created kind type entries segment new hnone hmake =>
      cases hw with
      | into hd => exact absurd hd (not_descends_of_none hnone)
      | created hnone' hmake' =>
          -- The key that the first write has put in is found by the second one.
          obtain ⟨i, hput, hset⟩ := entry?_put hnone new
          obtain ⟨place, hplace⟩ := assigns_of_make catalog hmake hmake'
          have hentry := @Assigns.entry _ _ _ _ _ kind type _ _ _ _ _ hput hplace
          rw [hset] at hentry
          exact ⟨rfl, _, hentry⟩

/-! ## §3. Different places. -/

section
variable {catalog : Catalog} {v w : String}

/-- A key that is put in is not found by the name of another one that is not there. -/
theorem entry?_put_eq_none {entries : List (String × Host)} {segment segment' : String}
    (hnone : entry? entries segment = none) (hnone' : entry? entries segment' = none)
    (hne : newKey segment ≠ newKey segment') (new : Host) :
    entry? (Sorted.put segment' new entries) segment = none := by
  rw [entry?_eq_none_iff] at hnone ⊢
  have hperm := Sorted.perm_put (ne_of_entry?_none hnone') new
  intro entry hmem
  rcases List.mem_cons.1 (hperm.mem_iff.1 hmem) with rfl | hold
  · rw [Bool.eq_false_iff]
    intro hsame
    exact hne (newKey_congr hsame).symm
  · exact hnone entry hold

/-- A write below a key that is there, and one that puts in another key. -/
theorem swap_created {kind : MapKind} {type : EntryType} {entries : List (String × Host)}
    {path : List String} {d : Descent} {segment : String} {new child : Host}
    {place : List Step} (hd : Descends (.map kind type entries) path d)
    (hrest : Assigns catalog v d.child d.rest place child)
    (hnone : entry? entries segment = none) (hmake : type.make w = .ok new) :
    ∃ after, Assigns catalog w (d.rebuild child) [segment] [newKey segment] after ∧
      Assigns catalog v (.map kind type (Sorted.put segment new entries)) path
        (d.step :: place) after := by
  cases hd with
  | @entry _ _ _ segment' key _ i old hentry =>
      obtain ⟨j, hput, hset⟩ := entry?_put_of_ne hnone hentry new
      have hnone' : entry? (entries.set i (key, child)) segment = none := by
        rw [entry?_eq_none_iff] at hnone ⊢
        have hkey := hnone _ (List.mem_of_getElem? (entry?_eq_some_iff.1 hentry).2)
        refine forall_mem_set hnone ?_ i
        exact hkey
      have hafter := @Assigns.entry _ _ _ _ _ kind type _ _ _ _ _ hput hrest
      rw [hset] at hafter
      exact ⟨_, .created hnone' hmake, hafter⟩

/-- **Writes to different places may be done in either order.** -/
theorem Assigns.swap (hcatalog : catalog.Independent) {h h₁ h₂ : Host} {p q : List String}
    {place place' : List Step} (hi : h.Independent) (hv : Assigns catalog v h p place h₁)
    (hw : Assigns catalog w h q place' h₂) (hne : place ≠ place') :
    ∃ after, Assigns catalog w h₁ q place' after ∧ Assigns catalog v h₂ p place after := by
  induction hv generalizing q place' h₂ with
  | @into h child p d place hd hrest ih =>
      cases hw with
      | @into _ child' _ e place' he hrest' =>
          by_cases hstep : e.step = d.step
          -- Both go into the same part, and what they make of it is put in its place.
          · obtain ⟨hchild, hrebuild⟩ := hd.eq_of_step he hstep
            rw [hchild] at hrest'
            have hrests : place ≠ place' := fun hplace => hne (by rw [hstep, hplace])
            obtain ⟨after, hfirst, hsecond⟩ := ih (hd.independent hi) hrest' hrests
            have hafter := Assigns.through he hfirst
            rw [hrebuild, hrebuild] at hafter
            rw [hrebuild]
            exact ⟨_, hafter, .through hd hsecond⟩
          -- They go into two parts, and neither write is in the way of the other.
          · obtain ⟨first, second, hfirst, hsecond, hboth⟩ :=
              hd.rebuild_comm hi he hstep child child'
            have hafter := Assigns.into hfirst hrest'
            have hafter' := Assigns.into hsecond hrest
            refine ⟨first child', hafter, ?_⟩
            rw [hboth]
            exact hafter'
      | filled hempty => cases hd
      | scalar hold => cases hd <;> cases hold
      | created hnone hmake => exact swap_created hd hrest hnone hmake
  | filled hempty hrest ih =>
      cases hw with
      | into hd => cases hd
      | filled hempty' hrest' =>
          -- The write that comes second finds the optional filled, as it would have filled it.
          rw [hempty] at hempty'
          cases hempty'
          have hrests : _ ≠ _ := fun hplace => hne (congrArg (Step.content :: ·) hplace)
          obtain ⟨after, hfirst, hsecond⟩ := ih (hcatalog.empty? hempty) hrest' hrests
          exact ⟨_, .into .content hfirst, .into .content hsecond⟩
      | scalar hold => cases hold
  | scalar hold hnew hcoerces =>
      cases hw with
      | into hd => cases hd <;> cases hold
      | filled => cases hold
      | scalar => exact absurd rfl hne
      | created => cases hold
  | @created kind type entries segment new hnone hmake =>
      cases hw with
      | into hd hrest =>
          obtain ⟨after, hfirst, hsecond⟩ := swap_created hd hrest hnone hmake
          exact ⟨after, hsecond, hfirst⟩
      | scalar hold => cases hold
      | @created _ _ _ segment' new' hnone' hmake' =>
          -- Neither key is found by the name of the other, and the map keeps both in order.
          have hnames : newKey segment ≠ newKey segment' := fun hname => hne (by rw [hname])
          have hkeys : segment ≠ segment' := fun hkey => hnames (by rw [hkey])
          have hfirst := entry?_put_eq_none hnone' hnone hnames.symm new
          have hsecond := entry?_put_eq_none hnone hnone' hnames new'
          refine ⟨_, .created hfirst hmake', ?_⟩
          rw [Sorted.put_comm hkeys.symm]
          exact .created hsecond hmake

/-- **The algebra of writes.**  The writes that succeed are those that assign a place, and a
path assigns one place, whatever the text.  Of two writes on the same path the last one wins;
and two writes to different places succeed one after the other, and leave the same in either
order. -/
theorem two_writes (hcatalog : catalog.Independent) {h : Host} (hi : h.Independent) :
    (∀ path v after, h.write catalog v path = ⟨after, none⟩ ↔
      ∃ place, Assigns catalog v h path place after) ∧
    (∀ path v w place place' h₁ h₂, Assigns catalog v h path place h₁ →
      Assigns catalog w h path place' h₂ → place' = place) ∧
    (∀ path v w, (h.write catalog v path).failure = none →
      (h.write catalog w path).failure = none →
        (h.write catalog v path).host.write catalog w path = h.write catalog w path) ∧
    (∀ p q v w place place' h₁ h₂, Assigns catalog v h p place h₁ →
      Assigns catalog w h q place' h₂ → place ≠ place' →
        ∃ after, h₁.write catalog w q = ⟨after, none⟩ ∧ h₂.write catalog v p = ⟨after, none⟩) := by
  refine ⟨fun _ _ _ => write_eq_iff_assigns, fun _ _ _ _ _ _ _ hv hw => (hv.overwrite hw).1, ?_, ?_⟩
  · intro path v w hv hw
    obtain ⟨place, hfirst⟩ := assigns_of_ok hv
    obtain ⟨place', hsecond⟩ := assigns_of_ok hw
    obtain ⟨-, _, hboth⟩ := hfirst.overwrite hsecond
    rw [hboth.write_eq, hsecond.write_eq]
  · intro p q v w place place' h₁ h₂ hv hw hne
    obtain ⟨after, hfirst, hsecond⟩ := hv.swap hcatalog hi hw hne
    exact ⟨after, hfirst.write_eq, hsecond.write_eq⟩

end

/-- A record with an optional map that is absent. -/
def sampleAnswer : Host :=
  .record (.ofFields "Answer" ["Header"]) [.absent (.map .hashed .strings)]

/-- Two writes fill the same optional and put two keys into it, in either order; and a second
write to one of them, in another spelling of the field, overwrites it. -/
theorem sampleAnswer_two_writes :
    Catalog.Independent [] ∧ sampleAnswer.Independent ∧
    (∃ h₁ h₂ after, sampleAnswer.write [] "1" ["header", "Age"] = ⟨h₁, none⟩ ∧
      sampleAnswer.write [] "2" ["Header", "Vary"] = ⟨h₂, none⟩ ∧
      h₁.write [] "2" ["Header", "Vary"] = ⟨after, none⟩ ∧
      h₂.write [] "1" ["header", "Age"] = ⟨after, none⟩) ∧
    (sampleAnswer.write [] "1" ["Header", "Age"]).host.write [] "2" ["Header", "Age"]
      = sampleAnswer.write [] "2" ["Header", "Age"] := by
  have hcatalog : Catalog.Independent [] := List.forall_mem_nil _
  have hi : sampleAnswer.Independent :=
    .record (by decide) (List.forall_mem_singleton.2 (.absent _))
  have hassigns (text segment key : String)
      (hslot : (Layout.ofFields "Answer" ["Header"]).slot? segment = some ("Header", 0)) :
      Assigns [] text sampleAnswer [segment, key] [.field "Header", .content, newKey key] _ :=
    .into (.field hslot rfl) (.filled rfl (.created rfl rfl))
  obtain ⟨-, -, hlast, hswap⟩ := two_writes hcatalog hi
  have hage := hassigns "1" "header" "Age" (by decide)
  have hvary := hassigns "2" "Header" "Vary" (by decide)
  obtain ⟨after, hfirst, hsecond⟩ := hswap _ _ _ _ _ _ _ _ hage hvary (by decide)
  refine ⟨hcatalog, hi, ⟨_, _, after, hage.write_eq, hvary.write_eq, hfirst, hsecond⟩, ?_⟩
  refine hlast _ _ _ ?_ ?_
  · rw [(hassigns "1" "Header" "Age" (by decide)).write_eq]
  · rw [(hassigns "2" "Header" "Age" (by decide)).write_eq]

end RuleScript.Host
