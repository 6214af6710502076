/-
  RuleScript.Proofs.Host.Removal
  ──────────────────────────────
  **Entries that have been taken out of a map.**

  A clear whose path ends at an entry takes out the key that it has found: the first
  that is the same up to case.  A map may hold more than one such key, and then the
  next of them is found in its place; only where there is no other, nothing is found
  any more, in whatever letters the path is spelled.

  Main results:
    • `clear_entry_hides` — what a clear of an entry leaves behind.
    • `clear_entry_shows_next` — another key of the same name comes up behind it.
-/
import RuleScript.Proofs.Host.Case
import RuleScript.Proofs.Host.Effects

namespace RuleScript.Host

/-! ## §1. Parts of a value. -/

/-- A path goes down to a part of a value, with a rest of the path left, and how the
value is put together again around another part. -/
inductive Reaches : Host → List String → Host → List String → (Host → Host) → Prop
  | here {h : Host} {path : List String} : Reaches h path h path id
  | into {h part : Host} {path rest : List String} {d : Descent} {rebuild : Host → Host}
      (hd : Descends h path d) (hrest : Reaches d.child d.rest part rest rebuild) :
      Reaches h path part rest (d.rebuild ∘ rebuild)

section
variable {h part : Host} {path path' rest : List String} {rebuild : Host → Host}

theorem Reaches.read_eq (hr : Reaches h path part rest rebuild) :
    h.read path = part.read rest := by
  induction hr with
  | here => rfl
  | into hd _ ih => rw [hd.read_eq, ih]

/-- What is left of a path that goes on has been there before. -/
theorem Reaches.ne_nil (hr : Reaches h path part rest rebuild) (hrest : rest ≠ []) :
    path ≠ [] := by
  induction hr with
  | here => exact hrest
  | into hd _ ih =>
      have hlonger := ih hrest
      rintro rfl
      cases hd with
      | first => exact hlonger rfl
      | content => exact hlonger rfl

/-- No clear ends where its path goes on. -/
theorem Descends.endsWhole_eq_false {d : Descent} (hd : Descends h path d) (hrest : d.rest ≠ []) :
    h.endsWhole path = false := by
  cases hd with
  | field | first | element => rfl
  | content =>
      cases path with
      | nil => exact absurd rfl hrest
      | cons segment path => rfl
  | @fixedKey _ _ _ _ path _ _ _ _ =>
      cases path with
      | nil => exact absurd rfl hrest
      | cons segment path => rfl
  | @entry _ _ _ _ _ path _ _ _ =>
      cases path with
      | nil => exact absurd rfl hrest
      | cons segment path => rfl

/-- A clear along a path that goes on is a clear of the part. -/
theorem Reaches.clear_eq (hr : Reaches h path part rest rebuild) (hrest : rest ≠ []) :
    h.clear path = (part.clear rest).map rebuild := by
  induction hr with
  | here => rfl
  | into hd hr ih =>
      rw [hd.clear_eq (hd.endsWhole_eq_false (hr.ne_nil hrest)), ih hrest]
      rfl

/-- The value is put together again around the part itself. -/
theorem Reaches.rebuild_part (hr : Reaches h path part rest rebuild) : rebuild part = h := by
  induction hr with
  | here => rfl
  | @into h part path rest d rebuild hd hrest ih =>
      show d.rebuild (rebuild part) = h
      rw [ih, hd.rebuild_child]

/-- The same path goes down to what has been put in the place of the part. -/
theorem Reaches.rebuild_self (hr : Reaches h path part rest rebuild) (new : Host) :
    Reaches (rebuild new) path new rest rebuild := by
  induction hr with
  | here => exact .here
  | @into h part path rest d rebuild hd hr ih =>
      obtain ⟨e, he, -, hchild, hrest, hrebuild⟩ := hd.rebuild_self (rebuild new)
      have hinto := Reaches.into he (by rwa [hchild, hrest])
      rwa [show e.rebuild = d.rebuild from funext hrebuild] at hinto

/-- A path in another case goes down to the same part. -/
theorem Reaches.respelled (hr : Reaches h path part rest rebuild) (hsame : SamePath path path') :
    ∃ rest', SamePath rest rest' ∧ Reaches h path' part rest' rebuild := by
  induction hr generalizing path' with
  | here => exact ⟨path', hsame, .here⟩
  | into hd hr ih =>
      obtain ⟨next, hnext, hd'⟩ := hd.respelled hsame
      obtain ⟨rest', hrest', hr'⟩ := ih hnext
      have hinto := Reaches.into hd' hr'
      exact ⟨rest', hrest', hinto⟩

/-- The path of a part ends as the rest does that is left of it. -/
theorem Reaches.getLast?_eq (hr : Reaches h path part rest rebuild) (hrest : rest ≠ []) :
    path.getLast? = rest.getLast? := by
  induction hr with
  | here => rfl
  | into hd hr ih =>
      rw [← ih hrest]
      have hnext := hr.ne_nil hrest
      cases hd with
      | field | fixedKey | entry | element => exact List.getLast?_cons_of_ne_nil hnext
      | first => exact absurd rfl hnext
      | content => rfl

end

/-! ## §2. Entries of a map. -/

/-- Where the path ends, nothing is looked up by name. -/
theorem read_nil_ne_notFound (h : Host) (segment : String) (kind : Kind) (typeName : String) :
    h.read [] ≠ .error (.notFound segment kind typeName) := by
  suffices hend : ∀ path, path = [] → h.read path ≠ .error (.notFound segment kind typeName) from
    hend [] rfl
  intro path
  induction h, path using descent_induction [] with
  | hstep h path ih _ =>
      rintro rfl
      cases h with
      | string | integer | boolean | bytes | record | fixed | map | absent =>
          rw [read]
          intro herror
          cases herror
      | sequence element items =>
          cases items with
          | nil =>
              rw [read]
              intro herror
              cases herror
          | cons item items =>
              rw [Descends.first.read_eq]
              exact ih _ .first rfl
      | present inner content =>
          rw [Descends.content.read_eq]
          exact ih _ .content rfl

section
variable {kind : MapKind} {type : EntryType} {entries : List (String × Host)} {segment : String}

/-- A name is not found in a map just if none of its keys is the same. -/
theorem read_entry_iff :
    (Host.map kind type entries).read [segment]
        = .error (.notFound segment .keyed (Shape.map kind type).name) ↔
      ∀ entry ∈ entries, Text.sameName entry.1 segment = false := by
  rw [← entry?_eq_none_iff, read]
  cases hentry : entry? entries segment with
  | none => exact ⟨fun _ => rfl, fun _ => rfl⟩
  | some found =>
      obtain ⟨i, key, child⟩ := found
      constructor
      · intro hread
        exact absurd hread (read_nil_ne_notFound child _ _ _)
      · intro hnone
        cases hnone

/-- A map without a key of that name is cleared already. -/
theorem clear_entry_of_none
    (hnone : ∀ entry ∈ entries, Text.sameName entry.1 segment = false) :
    (Host.map kind type entries).clear [segment] = ⟨.map kind type entries, none⟩ :=
  (Stops.entry (entry?_eq_none_iff.2 hnone)).clear_eq []

end

/-! ## §3. Clears of an entry. -/

section
variable {h : Host} {path : List String} {kind : MapKind} {type : EntryType}
  {entries : List (String × Host)} {segment key : String} {i : Nat} {child : Host}
  {rebuild : Host → Host}

/-- **A clear of an entry hides it under every spelling**, unless another key of the same
map has the same name up to case: the first key of that name is taken out and nothing
else; after that the name is not found, in whatever case the path is spelled, just if no
other key has it, and then another clear changes nothing. -/
theorem clear_entry_hides (hr : Reaches h path (.map kind type entries) [segment] rebuild)
    (hentry : entry? entries segment = some (i, key, child)) :
    ∃ after, h.clear path = ⟨after, none⟩ ∧
      after = rebuild (.map kind type (entries.eraseIdx i)) ∧
      ∀ path', SamePath path path' →
        ((∃ last, path'.getLast? = some last ∧
            after.read path' = .error (.notFound last .keyed (Shape.map kind type).name)) ↔
          ∀ other ∈ entries.eraseIdx i, Text.sameName other.1 key = false) ∧
        ((∀ other ∈ entries.eraseIdx i, Text.sameName other.1 key = false) →
          after.clear path' = ⟨after, none⟩) := by
  refine ⟨rebuild (.map kind type (entries.eraseIdx i)), ?_, rfl, ?_⟩
  · rw [hr.clear_eq (List.cons_ne_nil _ _), clear_entry hentry]
    rfl
  · intro path' hsame
    -- In any case, the path goes down to the map without the key that has been found.
    obtain ⟨rest', hrest, hr'⟩ := hr.respelled hsame
    obtain ⟨last, others, rfl, hlast, hothers⟩ := samePath_cons hrest
    obtain rfl := samePath_nil hothers
    have hafter := hr'.rebuild_self (.map kind type (entries.eraseIdx i))
    have hname : Text.sameName key last = true :=
      Text.sameName_trans (sameName_entryKey hentry) hlast
    simp only [Text.sameName_congr hname]
    refine ⟨?_, ?_⟩
    · rw [hr'.getLast?_eq (List.cons_ne_nil _ _), ← @read_entry_iff kind type, hafter.read_eq]
      constructor
      · rintro ⟨_, hsegment, hread⟩
        cases hsegment
        exact hread
      · intro hread
        exact ⟨last, rfl, hread⟩
    · intro hnone
      rw [hafter.clear_eq (List.cons_ne_nil _ _), clear_entry_of_none hnone]
      rfl

end

/-- A record with a map of two keys. -/
def sampleRequest : Host :=
  .record ⟨"Request", [("Method", some 0), ("Header", some 1)]⟩
    [.string "GET", .map .ordered .string [("Cookie", .string "a=1"), ("Server", .string "x")]]

/-- The cookie of the record is hidden under another spelling. -/
theorem sampleRequest_hides_cookie :
    ∃ after, sampleRequest.clear ["header", "cookie"] = ⟨after, none⟩ ∧
      after.read ["HEADER", "COOKIE"]
        = .error (.notFound "COOKIE" .keyed (Shape.map .ordered .string).name) ∧
      after.clear ["header", "cookie"] = ⟨after, none⟩ := by
  have hr : Reaches sampleRequest ["header", "cookie"]
      (.map .ordered .string [("Cookie", .string "a=1"), ("Server", .string "x")]) ["cookie"] _ :=
    .into (.field rfl rfl) .here
  obtain ⟨after, hclear, -, hspelled⟩ := clear_entry_hides hr rfl
  have hnone : ∀ other ∈ ([("Server", .string "x")] : List (String × Host)),
      Text.sameName other.1 "Cookie" = false := by
    intro other hother
    rw [List.mem_singleton.1 hother]
    rfl
  obtain ⟨last, hlast, hread⟩ := (hspelled ["HEADER", "COOKIE"] (by decide)).1.2 hnone
  cases hlast
  exact ⟨after, hclear, hread, (hspelled _ (.refl _)).2 hnone⟩

/-- **A clear of an entry may leave another one under its name**: a map with two keys that
are the same up to case loses the first of them, and then the second is read. -/
theorem clear_entry_shows_next :
    ¬∀ (h after : Host) (path : List String) (kind : MapKind) (type : EntryType)
      (entries : List (String × Host)) (segment key : String) (i : Nat) (child : Host)
      (rebuild : Host → Host), Reaches h path (.map kind type entries) [segment] rebuild →
        entry? entries segment = some (i, key, child) → h.clear path = ⟨after, none⟩ →
          ∀ path', SamePath path path' → ∃ last container typeName,
            after.read path' = .error (.notFound last container typeName) := by
  intro hclaim
  have hentry : entry? [("COOKIE", .string "x"), ("cookie", .string "y")] "cookie"
      = some (0, "COOKIE", .string "x") := rfl
  obtain ⟨last, container, typeName, hread⟩ := hclaim
    (.map .ordered .string [("COOKIE", .string "x"), ("cookie", .string "y")])
    (.map .ordered .string [("cookie", .string "y")])
    ["cookie"] _ _ _ _ _ _ _ _ .here hentry (clear_entry hentry) ["cookie"] (.refl _)
  rw [(Descends.entry rfl).read_eq, read_nil_of_value? rfl] at hread
  cases hread

end RuleScript.Host
