/-
  RuleScript.Proofs.Host.WriteRead
  ────────────────────────────────
  **What is written can be read.**

  A write goes down the path as a read does, but where a read gives up it may
  build: an absent optional is filled, and a key that a map lacks is put in.
  What it has built has to be just what the reader's own rules then find on the
  same path: the first key that matches, the first element of a sequence, the
  content of an optional.

  Main results:
    • `read_write` — after a write that succeeds, the path reads the text, coerced
      to the scalar that is there.
    • `write_succeeds_iff` — which writes succeed.
    • `target?_of_read` — a scalar that can be read is the one that is written to.
-/
import RuleScript.Proofs.Host.Parts
import RuleScript.Proofs.Text.Numeral

namespace RuleScript

/-- The kind of a scalar that has been read. -/
def Value.scalar? : Value → Option Host.Kind
  | .string _ => some .string
  | .integer _ => some .integer
  | .boolean _ => some .boolean
  | .bytes _ => some .bytes
  | .composite _ _ => none

namespace Host

/-! ## §1. What a path is meant for. -/

/-- The kind of the scalars that a map holds; of a list of strings it is the first
that counts. -/
def EntryType.scalar : EntryType → Kind
  | .string => .string
  | .integer => .integer
  | .boolean => .boolean
  | .strings => .string

/-- The kind of a scalar that a path ends at. -/
def endKind (kind : Kind) : List String → Option Kind
  | [] => some kind
  | _ :: _ => none

/-- The kind of the scalar that a path leads to.  An absent optional is looked
through as if it held its empty value, and a key that is missing at the end of the
path as if it were there. -/
def target? (catalog : Catalog) : Host → List String → Option Kind
  | .string _, path => endKind .string path
  | .integer _, path => endKind .integer path
  | .boolean _, path => endKind .boolean path
  | .bytes _, path => endKind .bytes path
  | .record layout cells, segment :: path =>
    match layout.child? cells segment with
    | some (_, child) => child.target? catalog path
    | none => none
  | .fixed layout cells, segment :: path =>
    match layout.child? cells segment with
    | some (_, child) => child.target? catalog path
    | none => none
  | .map _ entry entries, segment :: path =>
    match entry? entries segment with
    | some (_, _, child) => child.target? catalog path
    | none => if path.isEmpty then some entry.scalar else none
  | .sequence _ (item :: _), [] => item.target? catalog []
  | .sequence _ items, segment :: path =>
    match position? segment with
    | none => none
    | some i =>
      match items[i]? with
      | some item => item.target? catalog path
      | none => none
  | .absent inner, path =>
    match _h : inner.empty? catalog with
    | none => none
    | some content => content.target? catalog path
  | .present _ content, path => content.target? catalog path
  | _, _ => none
termination_by h path => (path.length, h.rank)
decreasing_by
  all_goals first
    | exact Prod.Lex.left _ _ (Nat.lt_succ_self _)
    | exact Prod.Lex.right _ (rank_head_lt ..)
    | exact Prod.Lex.right _ (rank_content_lt ..)
    | exact Prod.Lex.right _ (rank_lt_of_empty? _h)

/-- A text, taken as a scalar of some kind, is this value. -/
inductive Coerces (text : String) : Kind → Value → Prop
  | string : Coerces text .string (.string text)
  | integer {n : Int64} (spelled : Numeral.Spells text.toList n) :
      Coerces text .integer (.integer n)
  | boolean : Coerces text .boolean (.boolean (Text.sameName text "true"))
  | bytes : Coerces text .bytes (.bytes (Utf8.encode text))

section
variable {text : String} {kind : Kind} {value value' : Value}

/-- A text is made into a value of the kind that is asked for. -/
theorem Coerces.scalar?_eq (hcoerces : Coerces text kind value) : value.scalar? = some kind := by
  cases hcoerces <;> rfl

/-- A text is coerced to one value of each kind at most. -/
theorem Coerces.unique (h : Coerces text kind value) (h' : Coerces text kind value') :
    value = value' := by
  cases h with
  | string =>
      cases h'
      rfl
  | boolean =>
      cases h'
      rfl
  | bytes =>
      cases h'
      rfl
  | integer spelled =>
      cases h' with
      | integer spelled' =>
          have hread := Numeral.signed_eq_ok_iff.2 spelled
          rw [Numeral.signed_eq_ok_iff.2 spelled'] at hread
          cases hread
          rfl

end

/-! ## §2. Scalars. -/

/-- How a write ends on a path that leads to a scalar of this kind, if to any: it
succeeds and the path then reads the coerced text, or the text cannot be coerced. -/
def Lands (text : String) (kind? : Option Kind) (path : List String) (w : Changed) : Prop :=
  (w.failure = none ∧ ∃ kind value, kind? = some kind ∧ Coerces text kind value ∧
    w.host.read path = .ok value) ∨
  (w.failure ≠ none ∧ ∀ kind value, kind? = some kind → ¬Coerces text kind value)

/-- A write lands as the write further down the path does. -/
theorem Lands.lift {text : String} {kind? kind?' : Option Kind} {path path' : List String}
    {w w' : Changed} (h : Lands text kind? path w) (hfailure : w'.failure = w.failure)
    (hkind : kind?' = kind?) (hread : w'.host.read path' = w.host.read path) :
    Lands text kind?' path' w' := by
  unfold Lands
  rw [hfailure, hkind, hread]
  exact h

/-- A write that leads to no scalar fails. -/
theorem lands_nowhere {text : String} {path : List String} {w : Changed}
    (h : w.failure ≠ none) : Lands text none path w :=
  .inr ⟨h, fun _ _ hkind => by cases hkind⟩

/-- A scalar is written at the end of the path, or not at all. -/
theorem lands_endKind {text : String} {kind : Kind} {old : Host} {new : Except PathError Host}
    (h : Lands text (some kind) [] (.scalar kind old [] new)) (path : List String) :
    Lands text (endKind kind path) path (.scalar kind old path new) := by
  cases path with
  | nil => exact h
  | cons segment path => exact lands_nowhere nofun

/-- What a text becomes as a scalar of some kind. -/
theorem lands_scalar {text : String} {kind : Kind} {old new : Host} {value : Value}
    (hcoerces : Coerces text kind value) (hread : new.read [] = .ok value) :
    Lands text (some kind) [] (.scalar kind old [] (.ok new)) :=
  .inl ⟨rfl, kind, value, rfl, hcoerces, hread⟩

theorem lands_integer {text : String} (old : Host) :
    Lands text (some .integer) []
      (.scalar .integer old [] ((readInteger text).map .integer)) := by
  cases hn : Numeral.integer text with
  | ok n =>
      have hread : readInteger text = .ok n := by
        unfold readInteger
        rw [hn]
        rfl
      rw [hread]
      refine lands_scalar (.integer (Numeral.integer_eq_ok_iff.1 hn)) ?_
      rw [read]
      rfl
  | error fault =>
      have hread : readInteger text = .error (.notInteger text fault) := by
        unfold readInteger
        rw [hn]
        rfl
      rw [hread]
      refine .inr ⟨Option.some_ne_none _, ?_⟩
      intro kind value hkind hcoerces
      cases hkind
      cases hcoerces with
      -- What the text spells would have been read.
      | integer spelled =>
          rw [Numeral.integer_eq_ok_iff.2 spelled] at hn
          cases hn

/-- An entry that a text makes is read as that text, coerced. -/
theorem lands_make {text : String} {entry : EntryType} {host : Host}
    (h : entry.make text = .ok host) :
    ∃ value, Coerces text entry.scalar value ∧ host.read [] = .ok value := by
  cases entry with
  | string =>
      cases h
      exact ⟨_, .string, by rw [read]; rfl⟩
  | boolean =>
      cases h
      exact ⟨_, .boolean, by rw [read]; rfl⟩
  | strings =>
      cases h
      exact ⟨_, .string, by rw [read, read]; rfl⟩
  | integer =>
      unfold EntryType.make at h
      cases hn : Numeral.integer text with
      | error fault =>
          rw [hn] at h
          cases h
      | ok n =>
          rw [hn] at h
          cases h
          exact ⟨_, .integer (Numeral.integer_eq_ok_iff.1 hn), by rw [read]; rfl⟩

theorem not_coerces_of_make {text : String} {entry : EntryType} {fault : Numeral.Fault}
    (h : entry.make text = .error fault) (value : Value) :
    ¬Coerces text entry.scalar value := by
  cases entry with
  | string => cases h
  | boolean => cases h
  | strings => cases h
  | integer =>
      intro hcoerces
      cases hcoerces with
      | integer spelled =>
          unfold EntryType.make at h
          rw [Numeral.integer_eq_ok_iff.2 spelled] at h
          cases h

/-! ## §3. Absent optionals. -/

section
variable {catalog : Catalog} {text : String} {inner : Shape} {path : List String}
  {content : Host}

theorem write_absent_none (h : inner.empty? catalog = none) :
    (absent inner).write catalog text path
      = ⟨.absent inner, some (.notConstructible inner.name)⟩ := by
  rw [write]
  split
  · rfl
  · next he => rw [h] at he; cases he

theorem write_absent_some (h : inner.empty? catalog = some content) :
    (absent inner).write catalog text path
      = ⟨.present inner (content.write catalog text path).host,
          (content.write catalog text path).failure⟩ := by
  rw [write]
  split
  · next he => rw [h] at he; cases he
  · next he => rw [h] at he; cases he; rfl

theorem target?_absent_none (h : inner.empty? catalog = none) :
    (absent inner).target? catalog path = none := by
  rw [target?]
  split
  · rfl
  · next he => rw [h] at he; cases he

theorem target?_absent_some (h : inner.empty? catalog = some content) :
    (absent inner).target? catalog path = content.target? catalog path := by
  rw [target?]
  split
  · next he => rw [h] at he; cases he
  · next he => rw [h] at he; cases he; rfl

end

/-! ## §4. Paths. -/

/-- **Every write lands.** -/
theorem lands_write (catalog : Catalog) (text : String) (h : Host) (path : List String) :
    Lands text (h.target? catalog path) path (h.write catalog text path) := by
  -- By the recursion of `write`, which goes on below a segment or inside an optional.
  induction h, path using write.induct catalog text with
  | case1 old path =>
      rw [write, target?]
      exact lands_endKind (lands_scalar .string (by rw [read]; rfl)) path
  | case2 old path =>
      rw [write, target?]
      exact lands_endKind (lands_integer _) path
  | case3 old path =>
      rw [write, target?]
      exact lands_endKind (lands_scalar .boolean (by rw [read]; rfl)) path
  | case4 old path =>
      rw [write, target?]
      exact lands_endKind (lands_scalar .bytes (by rw [read]; rfl)) path
  -- Records, and keyed containers with fixed keys: the cell is replaced.
  | case5 layout cells =>
      rw [write, target?]
      · exact lands_nowhere nofun
      all_goals simp
  | case6 layout cells segment path i child hchild ih =>
      refine ih.lift ?_ ?_ ?_
      · rw [write]
        simp only [hchild]
      · rw [target?]
        simp only [hchild]
      · rw [write]
        simp only [hchild]
        rw [read]
        simp only [Layout.child?_set hchild]
  | case7 layout cells segment path hchild =>
      rw [write, target?]
      simp only [hchild]
      exact lands_nowhere nofun
  | case8 layout cells =>
      rw [write, target?]
      · exact lands_nowhere nofun
      all_goals simp
  | case9 layout cells segment path i child hchild ih =>
      refine ih.lift ?_ ?_ ?_
      · rw [write]
        simp only [hchild]
      · rw [target?]
        simp only [hchild]
      · rw [write]
        simp only [hchild]
        rw [read]
        simp only [Layout.child?_set hchild]
  | case10 layout cells segment path hchild hkey =>
      rw [write, target?]
      simp only [hchild, if_pos hkey]
      exact lands_nowhere nofun
  | case11 layout cells segment path hchild hkey =>
      rw [write, target?]
      simp only [hchild, if_neg hkey]
      exact lands_nowhere nofun
  -- Maps: the entry is replaced, or it is created at the end of the path.
  | case12 kind entry entries =>
      rw [write, target?]
      · exact lands_nowhere nofun
      all_goals simp
  | case13 kind entry entries segment path i key child hentry ih =>
      refine ih.lift ?_ ?_ ?_
      · rw [write]
        simp only [hentry]
      · rw [target?]
        simp only [hentry]
      · rw [write]
        simp only [hentry]
        rw [read]
        simp only [entry?_set hentry]
  | case14 kind entry entries segment path hentry hend host hmake =>
      -- No key matched before, so the reader finds the new one.
      rw [write, target?]
      simp only [hentry, if_pos hend, hmake]
      obtain ⟨value, hcoerces, hread⟩ := lands_make hmake
      obtain ⟨i, hput, -⟩ := entry?_put hentry host
      refine .inl ⟨rfl, entry.scalar, value, rfl, hcoerces, ?_⟩
      rw [read]
      simp only [hput]
      rw [List.isEmpty_iff.1 hend]
      exact hread
  | case15 kind entry entries segment path hentry hend fault hmake =>
      rw [write, target?]
      simp only [hentry, if_pos hend, hmake]
      refine .inr ⟨nofun, ?_⟩
      intro kind' value hkind
      cases hkind
      exact not_coerces_of_make hmake value
  | case16 kind entry entries segment path hentry hend =>
      rw [write, target?]
      simp only [hentry, if_neg hend]
      exact lands_nowhere nofun
  -- Sequences: the element that is counted, or the first where the path has ended.
  | case17 element =>
      rw [write, target?]
      · exact lands_nowhere nofun
      all_goals simp
  | case18 element item items ih =>
      -- The reader takes the first element as well where the path has ended.
      refine ih.lift ?_ ?_ ?_
      · rw [write]
      · rw [target?]
      · rw [write, read]
  | case19 element items segment path hposition =>
      rw [write, target?]
      simp only [hposition]
      exact lands_nowhere nofun
  | case20 element items segment path i hposition item hitem ih =>
      have hlt : i < items.length := (List.getElem?_eq_some_iff.1 hitem).1
      refine ih.lift ?_ ?_ ?_
      · rw [write]
        simp only [hposition, hitem]
      · rw [target?]
        simp only [hposition, hitem]
      · rw [write]
        simp only [hposition, hitem]
        rw [read]
        simp only [hposition, List.getElem?_set_self hlt]
  | case21 element items segment path i hposition hitem =>
      rw [write, target?]
      simp only [hposition, hitem]
      exact lands_nowhere nofun
  -- Optionals: an absent one becomes present, and the reader then looks through it.
  | case22 inner path hempty =>
      rw [write_absent_none hempty, target?_absent_none hempty]
      exact lands_nowhere nofun
  | case23 inner path content hempty ih =>
      refine ih.lift ?_ ?_ ?_
      · rw [write_absent_some hempty]
      · rw [target?_absent_some hempty]
      · rw [write_absent_some hempty, read]
  | case24 inner content path ih =>
      refine ih.lift ?_ ?_ ?_
      · rw [write]
      · rw [target?]
      · rw [write, read]

/-- **Which writes succeed**: those to a path that leads to a scalar, of a text that can
be coerced to it. -/
theorem write_succeeds_iff (catalog : Catalog) (text : String) (h : Host)
    (path : List String) :
    (h.write catalog text path).failure = none ↔
      ∃ kind value, h.target? catalog path = some kind ∧ Coerces text kind value := by
  rcases lands_write catalog text h path with ⟨hok, kind, value, hkind, hcoerces, -⟩ | ⟨hfailed, hnot⟩
  · exact ⟨fun _ => ⟨kind, value, hkind, hcoerces⟩, fun _ => hok⟩
  · refine ⟨fun hok => absurd hok hfailed, ?_⟩
    rintro ⟨kind, value, hkind, hcoerces⟩
    exact absurd hcoerces (hnot kind value hkind)

/-- **What is written can be read.**  After a write that succeeds, the same path reads
the text as the scalar that it leads to, whatever the write had to fill or put in. -/
theorem read_write (catalog : Catalog) (text : String) (h : Host) (path : List String)
    (hok : (h.write catalog text path).failure = none) :
    ∃ kind value, h.target? catalog path = some kind ∧ Coerces text kind value ∧
      (h.write catalog text path).host.read path = .ok value := by
  rcases lands_write catalog text h path with ⟨-, hlands⟩ | ⟨hfailed, -⟩
  · exact hlands
  · exact absurd hok hfailed

/-- Every part of this host is yet to be built. -/
def sampleHost : Host :=
  .record (.ofFields "Request" ["Method", "Tls"]) [.string "GET", .absent (.record "Tls")]

/-- The record types that it is built from. -/
def sampleCatalog : Catalog :=
  [⟨.ofFields "Tls" ["Peers"], [.absent (.sequence (.record "Peer"))]⟩,
    ⟨.ofFields "Peer" ["Tags"], [.absent (.map .hashed .strings)]⟩]

/-- A path through three absent optionals and a sequence, to a key of a map. -/
def samplePath : List String := ["tls", "PEERS", "0", "Tags", "x"]

/-- What is written there builds all of it, and is read back. -/
theorem sampleHost_read_write :
    (sampleHost.write sampleCatalog "yes" samplePath).failure = none ∧
      ∃ kind value, sampleHost.target? sampleCatalog samplePath = some kind ∧
        Coerces "yes" kind value ∧
        (sampleHost.write sampleCatalog "yes" samplePath).host.read samplePath = .ok value := by
  have htls : (Shape.record "Tls").empty? sampleCatalog
      = some (.record (.ofFields "Tls" ["Peers"]) [.absent (.sequence (.record "Peer"))]) := rfl
  have hpeers : (Shape.sequence (.record "Peer")).empty? sampleCatalog
      = some (.sequence (.record "Peer")
          [.record (.ofFields "Peer" ["Tags"]) [.absent (.map .hashed .strings)]]) := rfl
  have htags : (Shape.map .hashed .strings).empty? sampleCatalog
      = some (.map .hashed .strings []) := rfl
  have hzero : position? "0" = some 0 := rfl
  -- One part of the host after the other, each of them built where it is absent.
  have hok : (sampleHost.write sampleCatalog "yes" samplePath).failure = none := by
    rw [sampleHost, samplePath, write]
    show ((absent _).write _ _ _).failure = none
    rw [write_absent_some htls, write]
    show ((absent _).write _ _ _).failure = none
    rw [write_absent_some hpeers, write]
    simp only [hzero]
    show ((record _ _).write _ _ _).failure = none
    rw [write]
    show ((absent _).write _ _ _).failure = none
    rw [write_absent_some htags, write]
    rfl
  exact ⟨hok, read_write sampleCatalog "yes" sampleHost samplePath hok⟩

/-! ## §5. What could be read before. -/

/-- A scalar that a path reads is the one that a write on this path goes to; where it
reads no scalar, no write succeeds. -/
theorem target?_of_read (catalog : Catalog) {h : Host} {path : List String} {value : Value}
    (hread : h.read path = .ok value) : h.target? catalog path = value.scalar? := by
  -- A scalar reads at the end of the path only.
  have hend {kind : Kind} {path : List String} {new : Value}
      (he : (endAt kind path).map (fun _ => new) = .ok value) (hkind : new.scalar? = some kind) :
      endKind kind path = value.scalar? := by
    cases path with
    | nil =>
        cases he
        exact hkind.symm
    | cons segment path => cases he
  -- By the recursion of `read`; where it fails there is nothing to show.
  induction h, path using read.induct with
  | case1 old path =>
      rw [read] at hread
      rw [target?]
      exact hend hread rfl
  | case2 old path =>
      rw [read] at hread
      rw [target?]
      exact hend hread rfl
  | case3 old path =>
      rw [read] at hread
      rw [target?]
      exact hend hread rfl
  | case4 old path =>
      rw [read] at hread
      rw [target?]
      exact hend hread rfl
  -- A record or a container as a whole reads as a composite, and cannot be written to.
  | case5 layout cells =>
      rw [read] at hread
      cases hread
      rw [target?] <;> simp [Value.scalar?]
  | case6 layout cells segment path i child hchild ih =>
      rw [read] at hread
      rw [target?]
      simp only [hchild] at hread ⊢
      exact ih hread
  | case7 layout cells segment path hchild =>
      rw [read] at hread
      simp only [hchild] at hread
      cases hread
  | case8 layout cells =>
      rw [read] at hread
      cases hread
      rw [target?] <;> simp [Value.scalar?]
  | case9 layout cells segment path i child hchild ih =>
      rw [read] at hread
      rw [target?]
      simp only [hchild] at hread ⊢
      exact ih hread
  | case10 layout cells segment path hchild =>
      rw [read] at hread
      simp only [hchild] at hread
      cases hread
  | case11 kind entry entries =>
      rw [read] at hread
      cases hread
      rw [target?] <;> simp [Value.scalar?]
  | case12 kind entry entries segment path i key child hentry ih =>
      rw [read] at hread
      rw [target?]
      simp only [hentry] at hread ⊢
      exact ih hread
  | case13 kind entry entries segment path hentry =>
      rw [read] at hread
      simp only [hentry] at hread
      cases hread
  | case14 element =>
      rw [read] at hread
      cases hread
  | case15 element item items ih =>
      rw [read] at hread
      rw [target?]
      exact ih hread
  | case16 element items segment path hposition =>
      rw [read] at hread
      simp only [hposition] at hread
      cases hread
  | case17 element items segment path i hposition item hitem ih =>
      rw [read] at hread
      rw [target?]
      simp only [hposition, hitem] at hread ⊢
      exact ih hread
  | case18 element items segment path i hposition hitem =>
      rw [read] at hread
      simp only [hposition, hitem] at hread
      cases hread
  | case19 inner path =>
      rw [read] at hread
      cases hread
  | case20 inner content path ih =>
      rw [read] at hread
      rw [target?]
      exact ih hread

end Host

end RuleScript
