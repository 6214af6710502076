/-
  RuleScript.Sorted
  ─────────────────
  **Named things in the order of their names.**

  A table is a list of pairs in ascending order of names, by code points, with
  each name once.  `put` keeps that order.
-/

namespace RuleScript.Sorted

variable {α : Type}

/-- Puts `value` under `name`, in place of what is there. -/
def put (name : String) (value : α) : List (String × α) → List (String × α)
  | [] => [(name, value)]
  | entry :: rest =>
    if name = entry.1 then (name, value) :: rest
    else if name < entry.1 then (name, value) :: entry :: rest
    else entry :: put name value rest

/-- Replaces the value under `name`, if there is one. -/
def set (name : String) (value : α) : List (String × α) → List (String × α)
  | [] => []
  | entry :: rest =>
    if name = entry.1 then (name, value) :: rest else entry :: set name value rest

/-- Takes `name` out of the table. -/
def drop (name : String) (table : List (String × α)) : List (String × α) :=
  table.filter fun entry => entry.1 != name

/-- The table of a list of pairs; of two pairs with one name the later one counts. -/
def ofList (entries : List (String × α)) : List (String × α) :=
  entries.foldl (fun table entry => put entry.1 entry.2 table) []

theorem lt_or_gt_of_ne {name other : String} (h : name ≠ other) : name < other ∨ other < name := by
  by_cases hlt : name < other
  · exact .inl hlt
  · refine .inr (Classical.not_not.1 fun hgt => h ?_)
    exact String.le_antisymm (String.not_lt.1 hgt) (String.not_lt.1 hlt)

theorem put_cons_of_eq {name : String} {entry : String × α} (h : name = entry.1) (value : α)
    (rest : List (String × α)) : put name value (entry :: rest) = (name, value) :: rest := by
  rw [put, if_pos h]

theorem put_cons_of_lt {name : String} {entry : String × α} (h : name < entry.1) (value : α)
    (rest : List (String × α)) : put name value (entry :: rest) = (name, value) :: entry :: rest := by
  have hne : name ≠ entry.1 := by
    intro he
    rw [he] at h
    exact String.lt_irrefl _ h
  rw [put, if_neg hne, if_pos h]

theorem put_cons_of_gt {name : String} {entry : String × α} (h : entry.1 < name) (value : α)
    (rest : List (String × α)) : put name value (entry :: rest) = entry :: put name value rest := by
  have hne : name ≠ entry.1 := by
    intro he
    rw [he] at h
    exact String.lt_irrefl _ h
  rw [put, if_neg hne, if_neg (String.lt_asymm h)]

theorem lookup_put_self (name : String) (value : α) (table : List (String × α)) :
    (put name value table).lookup name = some value := by
  induction table with
  | nil => simp [put]
  | cons entry rest ih =>
    rw [put]
    split
    · simp
    · next hne =>
      split
      · simp
      · have : (name == entry.1) = false := by simpa using hne
        rw [List.lookup_cons, this]
        exact ih

theorem lookup_put_of_ne {name other : String} (h : other ≠ name) (value : α)
    (table : List (String × α)) :
    (put name value table).lookup other = table.lookup other := by
  have hne : (other == name) = false := by simpa using h
  induction table with
  | nil => simp [put, List.lookup_cons, hne]
  | cons entry rest ih =>
    rw [put]
    split
    · next he => rw [List.lookup_cons, List.lookup_cons, hne, ← he, hne]
    · split
      · rw [List.lookup_cons, hne]
      · rw [List.lookup_cons, List.lookup_cons]
        split
        · rfl
        · exact ih

/-- What is put under a name that is there replaces the value under it. -/
theorem lookup_set_self {name : String} {table : List (String × α)} {old : α}
    (h : table.lookup name = some old) (value : α) :
    (set name value table).lookup name = some value := by
  induction table with
  | nil => cases h
  | cons entry rest ih =>
    rw [set]
    split
    · simp
    · next hne =>
      have hne : (name == entry.1) = false := by simpa using hne
      rw [List.lookup_cons, hne] at h ⊢
      exact ih h

theorem lookup_set_of_ne {name other : String} (h : other ≠ name) (value : α)
    (table : List (String × α)) :
    (set name value table).lookup other = table.lookup other := by
  have hne : (other == name) = false := by simpa using h
  induction table with
  | nil => rfl
  | cons entry rest ih =>
    rw [set]
    split
    · next he => rw [List.lookup_cons, List.lookup_cons, hne, ← he, hne]
    · rw [List.lookup_cons, List.lookup_cons]
      split
      · rfl
      · exact ih

theorem put_comm_of_lt {name other : String} (h : name < other) (value value' : α)
    (table : List (String × α)) :
    put name value (put other value' table) = put other value' (put name value table) := by
  induction table with
  | nil =>
      have hfront := @put_cons_of_lt α name (other, value') h value []
      have hbehind := @put_cons_of_gt α other (name, value) h value' []
      exact hfront.trans hbehind.symm
  | cons entry rest ih =>
      by_cases hlt : name < entry.1
      -- Whatever the other name finds at the front, this one comes before it.
      · have hfront : put name value (put other value' (entry :: rest))
            = (name, value) :: put other value' (entry :: rest) := by
          by_cases heq : other = entry.1
          · rw [put_cons_of_eq heq]
            exact put_cons_of_lt h value rest
          rcases lt_or_gt_of_ne heq with hbefore | hbehind
          · rw [put_cons_of_lt hbefore]
            exact put_cons_of_lt h value _
          · rw [put_cons_of_gt hbehind]
            exact put_cons_of_lt hlt value _
        rw [hfront, put_cons_of_lt hlt]
        exact (put_cons_of_gt h value' _).symm
      by_cases heq : name = entry.1
      · have hother : entry.1 < other := by rwa [← heq]
        rw [put_cons_of_gt hother, put_cons_of_eq heq, put_cons_of_eq heq]
        exact (put_cons_of_gt h value' rest).symm
      · have hgt : entry.1 < name := (lt_or_gt_of_ne heq).resolve_left hlt
        have hother : entry.1 < other := String.lt_trans hgt h
        rw [put_cons_of_gt hother, put_cons_of_gt hgt, put_cons_of_gt hgt, put_cons_of_gt hother, ih]

/-- Values under different names may be put in either order. -/
theorem put_comm {name other : String} (h : name ≠ other) (value value' : α)
    (table : List (String × α)) :
    put name value (put other value' table) = put other value' (put name value table) := by
  rcases lt_or_gt_of_ne h with hlt | hgt
  · exact put_comm_of_lt hlt value value' table
  · exact (put_comm_of_lt hgt value' value table).symm

end RuleScript.Sorted
