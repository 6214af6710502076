/-
  RuleScript.Proofs.Environment.Typing
  ────────────────────────────────────
  **Types, lengths and keys in an environment.**

  A write and a clear reach into the value of one root, and a declaration adds a root
  that there was not.  So what they keep of one host value, they keep of all values
  that a script can address: every root stays bound, lent or owned as it was, to a
  value of its type; all parts stay of their types, sequences stay as long as they
  are, and keys stay distinct.

  Main results:
    • `continues_write` / `continues_clear` / `continues_own` — roots stay bound.
    • `WellTyped.write` / `WellTyped.clear` / `WellTyped.own` — and well typed.
    • `write_keeps_alike` / `write_new_size` / `clear_kept_alike` — lengths.
    • `Distinct.write` / `Distinct.clear` / `Distinct.own` — keys.
-/
import RuleScript.Proofs.Environment.Roots
import RuleScript.Proofs.Host.Keys
import RuleScript.Proofs.Host.Lengths

namespace RuleScript.Environment

open Host (Alike Keeps Schema Step)

/-! ## §1. What is kept of an environment. -/

/-- Whatever is bound in the first environment is bound in the second one, in the same way
and to a value of the same type, and nothing has been given back. -/
structure Continues (env after : Environment) : Prop where
  catalog : after.catalog = env.catalog
  released : after.released = env.released
  roots : ∀ name root, env.find? name = some root →
    ∃ host, after.find? name = some { root with host := host } ∧ host.shape = root.host.shape

/-- All values of the environment are well typed, and so are those that it can make. -/
structure WellTyped (schema : Schema) (env : Environment) : Prop where
  catalog : Host.Catalog.Typed schema env.catalog
  roots : ∀ name root, env.find? name = some root → root.host.Typed schema

/-- No map of the environment has two keys that are the same up to case, and neither has any
map of the empty records. -/
structure Distinct (env : Environment) : Prop where
  catalog : Host.Catalog.Distinct env.catalog
  roots : ∀ name root, env.find? name = some root → root.host.Distinct

/-- What is at a place of the environment; the step to a root comes first. -/
def at? (env : Environment) : List Step → Option Host
  | .root name :: place => (env.host? name).bind (·.at? place)
  | _ => none

/-- How a sequence comes to be at a place of an environment where there was nothing, and how
long it is then. -/
def NewSize (env after : Environment) (place : List Step) (size : Nat) : Prop :=
  ∃ name root root' below, place = .root name :: below ∧ env.find? name = some root ∧
    after.find? name = some root' ∧ Host.NewSize env.catalog root.host root'.host below size

section
variable {env mid after : Environment} {name : String} {root : Root} {host : Host}

theorem Continues.refl (env : Environment) : env.Continues env :=
  ⟨rfl, rfl, fun _ root hroot => ⟨root.host, hroot, rfl⟩⟩

theorem Continues.trans (h : env.Continues mid) (h' : mid.Continues after) :
    env.Continues after := by
  refine ⟨h'.catalog.trans h.catalog, h'.released.trans h.released, ?_⟩
  intro name root hroot
  obtain ⟨host, hmid, hshape⟩ := h.roots name root hroot
  obtain ⟨host', hafter, hshape'⟩ := h'.roots name _ hmid
  exact ⟨host', hafter, hshape'.trans hshape⟩

theorem at?_of_find? (hroot : env.find? name = some root) (place : List Step) :
    env.at? (.root name :: place) = root.host.at? place := by
  rw [at?, host?, hroot]
  rfl

/-- What is at some place is below a root. -/
theorem at?_cases {place : List Step} {part : Host} (hat : env.at? place = some part) :
    ∃ name root rest, place = .root name :: rest ∧ env.find? name = some root ∧
      root.host.at? rest = some part := by
  cases place with
  | nil => cases hat
  | cons step rest =>
      cases step with
      | root name =>
          rw [at?, host?] at hat
          obtain ⟨host, hhost, hpart⟩ := Option.bind_eq_some_iff.1 hat
          obtain ⟨root, hroot, rfl⟩ := Option.map_eq_some_iff.1 hhost
          exact ⟨name, root, rest, rfl, hroot, hpart⟩
      | field | key | index | content => cases hat

/-! ## §2. Replaced values and new roots. -/

/-- What holds of all roots holds of all after one value has been replaced. -/
theorem forall_find?_setHost {P : Root → Prop} (hroot : env.find? name = some root)
    (hall : ∀ name root, env.find? name = some root → P root)
    (hnew : P { root with host := host }) :
    ∀ other root', (env.setHost name root host).find? other = some root' → P root' := by
  intro other root' hother
  by_cases hname : other = name
  · subst hname
    rw [find?_setHost_self hroot] at hother
    cases hother
    exact hnew
  · rw [find?_setHost_of_ne hname] at hother
    exact hall other root' hother

/-- What holds of all roots holds of all after one has been added. -/
theorem forall_find?_own {P : Root → Prop}
    (hall : ∀ name root, env.find? name = some root → P root) (hnew : P ⟨host, false⟩) :
    ∀ other root', (env.own name host).find? other = some root' → P root' := by
  intro other root' hother
  by_cases hname : other = name
  · subst hname
    rw [find?_own_self] at hother
    cases hother
    exact hnew
  · rw [find?_own_of_ne hname] at hother
    exact hall other root' hother

theorem continues_setHost (hroot : env.find? name = some root)
    (hshape : host.shape = root.host.shape) : env.Continues (env.setHost name root host) := by
  refine ⟨rfl, rfl, ?_⟩
  intro other root' hother
  by_cases hname : other = name
  · subst hname
    rw [hroot] at hother
    cases hother
    exact ⟨host, find?_setHost_self hroot _, hshape⟩
  · exact ⟨root'.host, (find?_setHost_of_ne hname ..).trans hother, rfl⟩

/-- What is kept of the value of one root is kept of the environment. -/
theorem keeps_setHost {R : Host → Host → Prop} (hrefl : ∀ part, R part part)
    (hroot : env.find? name = some root) (hkeeps : Keeps R root.host host) {place : List Step}
    {part : Host} (hpart : env.at? place = some part) :
    ∃ part', (env.setHost name root host).at? place = some part' ∧ R part part' := by
  obtain ⟨other, root', rest, rfl, hother, hrest⟩ := at?_cases hpart
  by_cases hname : other = name
  · subst hname
    rw [hroot] at hother
    cases hother
    rw [at?_of_find? (find?_setHost_self hroot _)]
    exact hkeeps rest part hrest
  · refine ⟨part, ?_, hrefl part⟩
    rw [at?_of_find? ((find?_setHost_of_ne hname ..).trans hother)]
    exact hrest

/-- The same, with the value as it was kept of the new one. -/
theorem kept_setHost {R : Host → Host → Prop} (hrefl : ∀ part, R part part)
    (hroot : env.find? name = some root) (hkeeps : Keeps R host root.host) {place : List Step}
    {part : Host} (hpart : (env.setHost name root host).at? place = some part) :
    ∃ part', env.at? place = some part' ∧ R part part' := by
  obtain ⟨other, root', rest, rfl, hother, hrest⟩ := at?_cases hpart
  by_cases hname : other = name
  · subst hname
    rw [find?_setHost_self hroot] at hother
    cases hother
    rw [at?_of_find? hroot]
    exact hkeeps rest part hrest
  · rw [find?_setHost_of_ne hname] at hother
    exact ⟨part, (at?_of_find? hother rest).trans hrest, hrefl part⟩

/-- A root that there is not gives nothing back when it is added. -/
theorem release_of_contains (hnew : env.contains name = false) : env.release name = env := by
  unfold release
  unfold contains at hnew
  rw [Option.isSome_eq_false_iff, Option.isNone_iff_eq_none] at hnew
  rw [hnew]

end

/-- The second environment is the first one with the value of one root replaced at most, as the
relation allows. -/
def AtOneRoot (R : Host → Host → Prop) (env after : Environment) : Prop :=
  after = env ∨ ∃ name root host, env.find? name = some root ∧ R root.host host ∧
    after = env.setHost name root host

section
variable {R K : Host → Host → Prop} {P : Host → Prop} {env after : Environment}

theorem AtOneRoot.catalog_eq (h : env.AtOneRoot R after) : after.catalog = env.catalog := by
  rcases h with rfl | ⟨name, root, host, -, -, rfl⟩
  · rfl
  · rfl

/-- No root appears where none was. -/
theorem AtOneRoot.find?_eq_none (h : env.AtOneRoot R after) {name : String}
    (hnone : env.find? name = none) : after.find? name = none := by
  rcases h with rfl | ⟨other, root, host, hroot, -, rfl⟩
  · exact hnone
  · have hne : name ≠ other := by
      rintro rfl
      rw [hroot] at hnone
      cases hnone
    exact (find?_setHost_of_ne hne ..).trans hnone

theorem AtOneRoot.continues (h : env.AtOneRoot R after)
    (hshape : ∀ old new, R old new → new.shape = old.shape) : env.Continues after := by
  rcases h with rfl | ⟨name, root, host, hroot, hhost, rfl⟩
  · exact .refl _
  · exact continues_setHost hroot (hshape _ _ hhost)

/-- What holds of all values holds of all, if it holds of the one that has been put in. -/
theorem AtOneRoot.forall_roots (h : env.AtOneRoot R after)
    (hall : ∀ name root, env.find? name = some root → P root.host)
    (hnew : ∀ name root new, env.find? name = some root → R root.host new → P new) :
    ∀ name root, after.find? name = some root → P root.host := by
  rcases h with rfl | ⟨name, root, host, hroot, hhost, rfl⟩
  · exact hall
  · exact forall_find?_setHost (P := fun root => P root.host) hroot hall
      (hnew name root host hroot hhost)

/-- What is kept of every value that is replaced is kept of the environment. -/
theorem AtOneRoot.keeps (h : env.AtOneRoot R after) (hrefl : ∀ part, K part part)
    (hkeeps : ∀ old new, R old new → Keeps K old new) {place : List Step} {part : Host}
    (hpart : env.at? place = some part) : ∃ part', after.at? place = some part' ∧ K part part' := by
  rcases h with rfl | ⟨name, root, host, hroot, hhost, rfl⟩
  · exact ⟨part, hpart, hrefl part⟩
  · exact keeps_setHost hrefl hroot (hkeeps _ _ hhost) hpart

/-- The same, with the values as they were kept of the new ones. -/
theorem AtOneRoot.kept (h : env.AtOneRoot R after) (hrefl : ∀ part, K part part)
    (hkept : ∀ name root new, env.find? name = some root → R root.host new →
      Keeps K new root.host) {place : List Step} {part : Host}
    (hpart : after.at? place = some part) : ∃ part', env.at? place = some part' ∧ K part part' := by
  rcases h with rfl | ⟨name, root, host, hroot, hhost, rfl⟩
  · exact ⟨part, hpart, hrefl part⟩
  · exact kept_setHost hrefl hroot (hkept name root host hroot hhost) hpart

end

/-! ## §3. Writes. -/

section
variable {schema : Schema} {env : Environment}

/-- A write does nothing, or replaces the value of one root by what it makes of it. -/
theorem atOneRoot_write (env : Environment) (path text : String) :
    env.AtOneRoot (fun old new => ∃ below, Host.Writes env.catalog text old below new)
      (env.write path text).1 := by
  cases hroot : env.find? (RootPath.ofText path).root with
  | none =>
      rw [write_of_unknown hroot]
      exact .inl rfl
  | some root =>
      rw [write_of_find? hroot]
      exact .inr ⟨_, root, _, hroot, ⟨_, Host.writes_write ..⟩, rfl⟩

/-- **A write leaves all roots bound**, to values of their types. -/
theorem continues_write (env : Environment) (path text : String) :
    env.Continues (env.write path text).1 := by
  refine (atOneRoot_write env path text).continues ?_
  rintro old new ⟨below, hwrites⟩
  exact hwrites.shape_eq

theorem WellTyped.write (htyped : env.WellTyped schema) (path text : String) :
    (env.write path text).1.WellTyped schema := by
  have hone := atOneRoot_write env path text
  refine ⟨?_, hone.forall_roots htyped.roots ?_⟩
  · rw [hone.catalog_eq]
    exact htyped.catalog
  · rintro name root new hroot ⟨below, hwrites⟩
    exact hwrites.typed htyped.catalog (htyped.roots name root hroot)

theorem Distinct.write (hdistinct : env.Distinct) (path text : String) :
    (env.write path text).1.Distinct := by
  have hone := atOneRoot_write env path text
  refine ⟨?_, hone.forall_roots hdistinct.roots ?_⟩
  · rw [hone.catalog_eq]
    exact hdistinct.catalog
  · rintro name root new hroot ⟨below, hwrites⟩
    exact hwrites.distinct hdistinct.catalog (hdistinct.roots name root hroot)

/-- **A write leaves everything in its place**, of its type and length. -/
theorem write_keeps_alike (env : Environment) (path text : String) {place : List Step}
    {part : Host} (hpart : env.at? place = some part) :
    ∃ part', (env.write path text).1.at? place = some part' ∧ Alike part part' := by
  refine (atOneRoot_write env path text).keeps .refl ?_ hpart
  rintro old new ⟨below, hwrites⟩
  exact hwrites.keeps_alike

/-- **A sequence that a write has made** is as long as the way it came to be says. -/
theorem write_new_size (env : Environment) (path text : String) {place : List Step}
    {part : Host} {size : Nat} (hnone : env.at? place = none)
    (hpart : (env.write path text).1.at? place = some part) (hsize : part.size? = some size) :
    env.NewSize (env.write path text).1 place size := by
  rcases atOneRoot_write env path text with
    hsame | ⟨name, root, host, hroot, ⟨below, hwrites⟩, hnew⟩
  · rw [hsame, hnone] at hpart
    cases hpart
  · rw [hnew] at hpart ⊢
    obtain ⟨other, root', rest, rfl, hother, hrest⟩ := at?_cases hpart
    by_cases hname : other = name
    · subst hname
      rw [find?_setHost_self hroot] at hother
      cases hother
      rw [at?_of_find? hroot] at hnone
      exact ⟨other, root, _, rest, rfl, hroot, find?_setHost_self hroot _,
        hwrites.new_size hnone hrest hsize⟩
    · -- What is below another root was there before.
      rw [find?_setHost_of_ne hname] at hother
      rw [at?_of_find? hother, hrest] at hnone
      cases hnone

end

/-! ## §4. Clears. -/

section
variable {schema : Schema} {env : Environment}

/-- A clear does nothing, or replaces the value of one root by what it makes of it. -/
theorem atOneRoot_clear (env : Environment) (path : String) :
    env.AtOneRoot (fun old new => ∃ below, Host.Clears old below new) (env.clear path).1 := by
  cases hroot : env.find? (RootPath.ofText path).root with
  | none =>
      rw [clear_of_unknown hroot]
      exact .inl rfl
  | some root =>
      rw [clear_of_find? hroot]
      exact .inr ⟨_, root, _, hroot, ⟨_, Host.clears_clear ..⟩, rfl⟩

/-- **A clear leaves all roots bound**, to values of their types. -/
theorem continues_clear (env : Environment) (path : String) :
    env.Continues (env.clear path).1 := by
  refine (atOneRoot_clear env path).continues ?_
  rintro old new ⟨below, hclears⟩
  exact hclears.shape_eq

theorem WellTyped.clear (htyped : env.WellTyped schema) (path : String) :
    (env.clear path).1.WellTyped schema := by
  have hone := atOneRoot_clear env path
  refine ⟨?_, hone.forall_roots htyped.roots ?_⟩
  · rw [hone.catalog_eq]
    exact htyped.catalog
  · rintro name root new hroot ⟨below, hclears⟩
    exact hclears.typed (htyped.roots name root hroot)

theorem Distinct.clear (hdistinct : env.Distinct) (htyped : env.WellTyped schema)
    (path : String) : (env.clear path).1.Distinct := by
  have hone := atOneRoot_clear env path
  refine ⟨?_, hone.forall_roots hdistinct.roots ?_⟩
  · rw [hone.catalog_eq]
    exact hdistinct.catalog
  · -- Keys that are stored twice could leave another one behind, so types come in here.
    rintro name root new hroot ⟨below, hclears⟩
    exact hclears.distinct (htyped.roots name root hroot) (hdistinct.roots name root hroot)

/-- **A clear makes nothing, and no sequence longer or shorter**: whatever is there
afterwards was there before. -/
theorem clear_kept_alike (htyped : env.WellTyped schema) (path : String) {place : List Step}
    {part : Host} (hpart : (env.clear path).1.at? place = some part) :
    ∃ part', env.at? place = some part' ∧ Alike part part' := by
  refine (atOneRoot_clear env path).kept .refl ?_ hpart
  rintro name root new hroot ⟨below, hclears⟩
  exact hclears.kept_alike (htyped.roots name root hroot)

end

/-! ## §5. Declarations. -/

section
variable {schema : Schema} {env : Environment} {name : String}

/-- **A new root leaves the others bound.** -/
theorem continues_own (hnew : env.contains name = false) (host : Host) :
    env.Continues (env.own name host) := by
  refine ⟨catalog_own .., ?_, ?_⟩
  · show (env.release name).released = env.released
    rw [release_of_contains hnew]
  · intro other root hother
    have hne : other ≠ name := by
      rintro rfl
      unfold contains at hnew
      rw [hother] at hnew
      cases hnew
    exact ⟨root.host, (find?_own_of_ne hne host).trans hother, rfl⟩

theorem WellTyped.own (htyped : env.WellTyped schema) (name text : String) :
    (env.own name (.string text)).WellTyped schema := by
  refine ⟨?_, forall_find?_own htyped.roots (.string text)⟩
  rw [catalog_own]
  exact htyped.catalog

theorem Distinct.own (hdistinct : env.Distinct) (name text : String) :
    (env.own name (.string text)).Distinct := by
  refine ⟨?_, forall_find?_own hdistinct.roots (Host.distinct_of_scalar rfl)⟩
  rw [catalog_own]
  exact hdistinct.catalog

end

end RuleScript.Environment
