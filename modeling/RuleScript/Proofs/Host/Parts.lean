/-
  RuleScript.Proofs.Host.Parts
  ────────────────────────────
  **The parts of a host value that a segment names.**

  A segment names the first declared name, or the first key, that is the same up
  to case.  Both are found by name alone: what is stored there does not matter, so
  it may be replaced, and a new key that no other matches is found wherever it
  stands.

  Main results:
    • `Layout.child?_set` / `entry?_set` — a part that has been replaced.
    • `entry?_put` — a key that has been put in.
    • `entry?_set_of_ne` / `entry?_put_of_ne` / `entry?_eraseIdx_of_ne` — the other
      keys are found as before.
    • `entry?_put_of_ne` and `entry?_put` also say that it makes no difference whether
      an entry is replaced before a key is put in or after it.
-/
import RuleScript.Host.Path

namespace RuleScript.Host

/-! ## §1. What a segment names. -/

/-- A place that is found names the item there, if there is one. -/
theorem found_eq_some_iff {α : Type} {place : Option Nat} {items : List α} {i : Nat} {item : α} :
    (do let i ← place; return (i, ← items[i]?)) = some (i, item) ↔
      place = some i ∧ items[i]? = some item := by
  constructor
  · intro h
    obtain ⟨j, hplace, h⟩ := Option.bind_eq_some_iff.1 h
    obtain ⟨found, hitem, h⟩ := Option.bind_eq_some_iff.1 h
    cases h
    exact ⟨hplace, hitem⟩
  · rintro ⟨hplace, hitem⟩
    exact Option.bind_eq_some_iff.2 ⟨i, hplace, Option.bind_eq_some_iff.2 ⟨item, hitem, rfl⟩⟩

theorem Layout.child?_eq_some_iff {layout : Layout} {cells : List Host} {segment : String}
    {i : Nat} {child : Host} :
    layout.child? cells segment = some (i, child) ↔
      layout.find? segment = some i ∧ cells[i]? = some child :=
  found_eq_some_iff

theorem entry?_eq_some_iff {entries : List (String × Host)} {segment key : String} {i : Nat}
    {child : Host} :
    entry? entries segment = some (i, key, child) ↔
      (entries.findIdx? fun entry => Text.sameName entry.1 segment) = some i ∧
        entries[i]? = some (key, child) :=
  found_eq_some_iff

theorem entry?_eq_none_iff {entries : List (String × Host)} {segment : String} :
    entry? entries segment = none ↔
      ∀ entry ∈ entries, Text.sameName entry.1 segment = false := by
  unfold entry?
  cases hi : entries.findIdx? fun entry => Text.sameName entry.1 segment with
  | none => simpa using hi
  | some i =>
      obtain ⟨hlt, hsame, -⟩ := List.findIdx?_eq_some_iff_getElem.1 hi
      constructor
      · intro h
        have hentry : entries[i]? = some entries[i] := List.getElem?_eq_getElem hlt
        simp [hentry] at h
      · intro h
        rw [h _ (List.getElem_mem hlt)] at hsame
        cases hsame

/-- Segments that differ in case at most name the same cell. -/
theorem Layout.child?_congr {segment segment' : String}
    (h : Text.sameName segment segment' = true) (layout : Layout) (cells : List Host) :
    layout.child? cells segment = layout.child? cells segment' := by
  unfold Layout.child? Layout.find?
  simp only [Text.sameName_congr h]

/-- Segments that differ in case at most find the same entry. -/
theorem entry?_congr {segment segment' : String} (h : Text.sameName segment segment' = true)
    (entries : List (String × Host)) : entry? entries segment = entry? entries segment' := by
  unfold entry?
  simp only [Text.sameName_congr h]

/-- The first entry is found if its key is the same, and else what is found behind it. -/
theorem entry?_cons (entry : String × Host) (rest : List (String × Host)) (segment : String) :
    entry? (entry :: rest) segment =
      if Text.sameName entry.1 segment then some (0, entry)
      else Option.map (fun found => (found.1 + 1, found.2)) <| entry? rest segment := by
  unfold entry?
  rw [List.findIdx?_cons]
  split
  · rfl
  · cases rest.findIdx? fun entry => Text.sameName entry.1 segment with
    | none => rfl
    | some i => cases hi : rest[i]? <;> simp [hi]

theorem entry?_cons_self {entry : String × Host} {segment : String}
    (hsame : Text.sameName entry.1 segment = true) (rest : List (String × Host)) :
    entry? (entry :: rest) segment = some (0, entry) := by
  rw [entry?_cons, hsame]
  rfl

/-- What is found behind an entry that is passed over is one place further on. -/
theorem entry?_cons_of_ne {entry : String × Host} {segment key : String} {i : Nat}
    {child : Host} {rest : List (String × Host)}
    (hother : Text.sameName entry.1 segment = false) :
    entry? (entry :: rest) segment = some (i, key, child) ↔
      ∃ j, i = j + 1 ∧ entry? rest segment = some (j, key, child) := by
  rw [entry?_cons, hother]
  constructor
  · intro h
    obtain ⟨⟨j, found⟩, hrest, he⟩ := Option.map_eq_some_iff.1 h
    cases he
    exact ⟨j, rfl, hrest⟩
  · rintro ⟨j, rfl, hrest⟩
    exact Option.map_eq_some_iff.2 ⟨_, hrest, rfl⟩

/-! ## §2. Parts that have been replaced or put in. -/

/-- The cell that a segment names is still that cell when it holds something else. -/
theorem Layout.child?_set {layout : Layout} {cells : List Host} {segment : String} {i : Nat}
    {child : Host} (h : layout.child? cells segment = some (i, child)) (new : Host) :
    layout.child? (cells.set i new) segment = some (i, new) := by
  obtain ⟨hfind, hcell⟩ := Layout.child?_eq_some_iff.1 h
  obtain ⟨hlt, -⟩ := List.getElem?_eq_some_iff.1 hcell
  exact Layout.child?_eq_some_iff.2 ⟨hfind, List.getElem?_set_self hlt⟩

theorem map_fst_set {entries : List (String × Host)} {key : String} {i : Nat} {child : Host}
    (hentry : entries[i]? = some (key, child)) (new : Host) :
    (entries.set i (key, new)).map (·.1) = entries.map (·.1) := by
  obtain ⟨hlt, hget⟩ := List.getElem?_eq_some_iff.1 hentry
  have hlt' : i < (entries.map (·.1)).length := by rwa [List.length_map]
  have hkey : (entries.map (·.1))[i] = key := by rw [List.getElem_map, hget]
  rw [List.map_set]
  show (entries.map (·.1)).set i key = entries.map (·.1)
  rw [← hkey, List.set_getElem_self]

/-- When an entry holds something else, the keys are what they were, and every segment
names the place that it named. -/
theorem findIdx?_set {entries : List (String × Host)} {key : String} {i : Nat} {child : Host}
    (hentry : entries[i]? = some (key, child)) (new : Host) (segment : String) :
    ((entries.set i (key, new)).findIdx? fun entry => Text.sameName entry.1 segment)
      = entries.findIdx? fun entry => Text.sameName entry.1 segment := by
  have hkeys (table : List (String × Host)) :
      (table.findIdx? fun entry => Text.sameName entry.1 segment)
        = (table.map (·.1)).findIdx? fun key => Text.sameName key segment := by
    rw [List.findIdx?_map]
    rfl
  rw [hkeys, hkeys, map_fst_set hentry]

/-- The entry that a segment names is still the first one when it holds something
else. -/
theorem entry?_set {entries : List (String × Host)} {segment key : String} {i : Nat}
    {child : Host} (h : entry? entries segment = some (i, key, child)) (new : Host) :
    entry? (entries.set i (key, new)) segment = some (i, key, new) := by
  obtain ⟨hfind, hentry⟩ := entry?_eq_some_iff.1 h
  obtain ⟨hlt, -⟩ := List.getElem?_eq_some_iff.1 hentry
  refine entry?_eq_some_iff.2 ⟨?_, List.getElem?_set_self hlt⟩
  rw [findIdx?_set hentry]
  exact hfind

/-- A key that no other matches is found, wherever in the order it has been put; and what
it holds may as well be put in at once. -/
theorem entry?_put {entries : List (String × Host)} {segment : String}
    (h : entry? entries segment = none) (new : Host) :
    ∃ i, entry? (Sorted.put segment new entries) segment = some (i, segment, new) ∧
      ∀ other, (Sorted.put segment new entries).set i (segment, other)
        = Sorted.put segment other entries := by
  rw [entry?_eq_none_iff] at h
  have hself : Text.sameName (segment, new).1 segment = true := Text.sameName_refl segment
  induction entries with
  | nil => exact ⟨0, entry?_cons_self hself _, fun _ => rfl⟩
  | cons entry rest ih =>
      have hhead := h entry List.mem_cons_self
      -- The key itself is not there: it would have been found.
      have hne : segment ≠ entry.1 := by
        intro he
        rw [← he, Text.sameName_refl] at hhead
        cases hhead
      rcases Sorted.lt_or_gt_of_ne hne with hlt | hgt
      · simp only [Sorted.put_cons_of_lt hlt]
        exact ⟨0, entry?_cons_self hself _, fun _ => rfl⟩
      · obtain ⟨i, hi, hset⟩ := ih fun e he => h e (List.mem_cons_of_mem _ he)
        simp only [Sorted.put_cons_of_gt hgt]
        refine ⟨i + 1, (entry?_cons_of_ne hhead).2 ⟨i, rfl, hi⟩, ?_⟩
        intro other
        rw [List.set_cons_succ, hset]

/-! ## §3. The other entries. -/

/-- The entry that a segment names is the first that matches. -/
theorem exists_entry?_iff {entries : List (String × Host)} {segment key : String} {child : Host} :
    (∃ i, entry? entries segment = some (i, key, child)) ↔
      (entries.find? fun entry => Text.sameName entry.1 segment) = some (key, child) := by
  rw [List.find?_eq_some_iff_getElem]
  constructor
  · rintro ⟨i, hi⟩
    obtain ⟨hfind, hentry⟩ := entry?_eq_some_iff.1 hi
    obtain ⟨hlt, hsame, hfirst⟩ := List.findIdx?_eq_some_iff_getElem.1 hfind
    have hkey : entries[i] = (key, child) := (List.getElem?_eq_some_iff.1 hentry).2
    rw [hkey] at hsame
    refine ⟨hsame, i, hlt, hkey, ?_⟩
    intro j hj
    simpa using hfirst j hj
  · rintro ⟨hsame, i, hlt, hkey, hfirst⟩
    refine ⟨i, entry?_eq_some_iff.2 ⟨?_, List.getElem?_eq_some_iff.2 ⟨hlt, hkey⟩⟩⟩
    refine List.findIdx?_eq_some_iff_getElem.2 ⟨hlt, by rwa [hkey], ?_⟩
    intro j hj
    simpa using hfirst j hj

theorem sameName_entryKey {entries : List (String × Host)} {segment key : String} {i : Nat}
    {child : Host} (h : entry? entries segment = some (i, key, child)) :
    Text.sameName key segment = true :=
  (List.find?_eq_some_iff_getElem.1 (exists_entry?_iff.1 ⟨i, h⟩)).1

/-- Segments that find the same key find it at the same place. -/
theorem entry?_eq_of_key {entries : List (String × Host)} {segment segment' key : String}
    {i j : Nat} {child child' : Host} (h : entry? entries segment = some (i, key, child))
    (h' : entry? entries segment' = some (j, key, child')) :
    entry? entries segment' = entry? entries segment := by
  have hsame : Text.sameName segment segment' = true := by
    have hkey := sameName_entryKey h
    rw [Text.sameName_comm] at hkey
    exact Text.sameName_trans hkey (sameName_entryKey h')
  exact (entry?_congr hsame entries).symm

/-- An entry that holds something else does not hide another key, nor move it. -/
theorem entry?_set_of_ne {entries : List (String × Host)} {segment key key' : String}
    {i j : Nat} {child child' : Host} (h : entries[i]? = some (key, child))
    (h' : entry? entries segment = some (j, key', child')) (hne : key' ≠ key) (new : Host) :
    i ≠ j ∧ entry? (entries.set i (key, new)) segment = some (j, key', child') := by
  obtain ⟨hfind, hentry⟩ := entry?_eq_some_iff.1 h'
  have hij : i ≠ j := by
    rintro rfl
    rw [h] at hentry
    cases hentry
    exact hne rfl
  refine ⟨hij, entry?_eq_some_iff.2 ⟨?_, ?_⟩⟩
  · rw [findIdx?_set h]
    exact hfind
  · rw [List.getElem?_set_ne hij]
    exact hentry

/-- A key that is put in because no other matched it hides none of them; and whatever
another key is to hold, it may as well hold it before. -/
theorem entry?_put_of_ne {entries : List (String × Host)} {segment segment' key : String}
    {i : Nat} {child : Host} (h : entry? entries segment = none)
    (h' : entry? entries segment' = some (i, key, child)) (new : Host) :
    ∃ j, entry? (Sorted.put segment new entries) segment' = some (j, key, child) ∧
      ∀ other, (Sorted.put segment new entries).set j (key, other)
        = Sorted.put segment new (entries.set i (key, other)) := by
  rw [entry?_eq_none_iff] at h
  -- Whoever finds a stored key does not mean the new one, which no stored key matches.
  have hnew : Text.sameName (segment, new).1 segment' = false := by
    have hmem := List.mem_of_getElem? (entry?_eq_some_iff.1 h').2
    have hkey := h _ hmem
    rw [Bool.eq_false_iff] at hkey ⊢
    intro hsame
    rw [Text.sameName_comm] at hsame
    exact hkey (Text.sameName_trans (sameName_entryKey h') hsame)
  induction entries generalizing i with
  | nil => cases h'
  | cons entry rest ih =>
      have hne : segment ≠ entry.1 := by
        intro he
        have hhead := h entry List.mem_cons_self
        rw [← he, Text.sameName_refl] at hhead
        cases hhead
      rcases Sorted.lt_or_gt_of_ne hne with hlt | hgt
      -- The new key comes in front of all others, and they are one place further on.
      · rw [Sorted.put_cons_of_lt hlt]
        refine ⟨i + 1, (entry?_cons_of_ne hnew).2 ⟨i, rfl, h'⟩, ?_⟩
        intro other
        rw [List.set_cons_succ]
        cases hsame : Text.sameName entry.1 segment' with
        | true =>
            rw [entry?_cons_self hsame] at h'
            cases h'
            have hother : segment < (key, other).1 := hlt
            exact (Sorted.put_cons_of_lt hother new rest).symm
        | false =>
            obtain ⟨j, rfl, -⟩ := (entry?_cons_of_ne hsame).1 h'
            exact (Sorted.put_cons_of_lt hlt new _).symm
      · rw [Sorted.put_cons_of_gt hgt]
        cases hsame : Text.sameName entry.1 segment' with
        | true =>
            rw [entry?_cons_self hsame] at h'
            cases h'
            refine ⟨0, entry?_cons_self hsame _, ?_⟩
            intro other
            have hother : (key, other).1 < segment := hgt
            exact (Sorted.put_cons_of_gt hother new rest).symm
        | false =>
            obtain ⟨k, rfl, hrest⟩ := (entry?_cons_of_ne hsame).1 h'
            obtain ⟨j, hj, hset⟩ := ih (fun e he => h e (List.mem_cons_of_mem _ he)) hrest
            refine ⟨j + 1, (entry?_cons_of_ne hsame).2 ⟨j, rfl, hj⟩, ?_⟩
            intro other
            rw [List.set_cons_succ, hset]
            exact (Sorted.put_cons_of_gt hgt new _).symm

/-- A key that is taken out leaves the others to be found. -/
theorem entry?_eraseIdx_of_ne {entries : List (String × Host)} {segment key key' : String}
    {i j : Nat} {child child' : Host} (h : entries[i]? = some (key, child))
    (h' : entry? entries segment = some (j, key', child')) (hne : key' ≠ key) :
    ∃ j, entry? (entries.eraseIdx i) segment = some (j, key', child') := by
  rw [exists_entry?_iff]
  replace h' := exists_entry?_iff.1 ⟨j, h'⟩
  induction entries generalizing i with
  | nil => cases h'
  | cons entry rest ih =>
      rw [List.find?_cons] at h'
      cases i with
      | zero =>
          cases h
          rw [List.eraseIdx_cons_zero]
          cases hsame : Text.sameName key segment with
          | true =>
              rw [hsame] at h'
              cases h'
              exact absurd rfl hne
          | false =>
              rw [hsame] at h'
              exact h'
      | succ i =>
          rw [List.eraseIdx_cons_succ, List.find?_cons]
          cases hsame : Text.sameName entry.1 segment with
          | true =>
              rw [hsame] at h'
              exact h'
          | false =>
              rw [hsame] at h'
              exact ih h h'

end RuleScript.Host
