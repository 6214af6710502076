/-
  RuleScript.Proofs.Environment.Roots
  ───────────────────────────────────
  **Paths that start at a root.**

  The first part of a path names a root, exactly, and the rest leads on below it.
  Replacing the value of one root leaves the others as they are, so what is known of
  one host value holds of the environment.

  Main results:
    • `read_cases` — what has been read is below some root.
    • `find?_setHost_self` — a root after its value has been replaced.
    • `find?_own_self` — a root that has been added.
    • `RootPath.ofText_of_not_mem` — a text without a dot is the name of a root.
-/
import RuleScript.Environment
import RuleScript.Proofs.Text.Lines

namespace RuleScript

/-! ## §1. Paths. -/

namespace RootPath

/-- A text without a dot is the name of a root. -/
theorem ofText_of_not_mem {name : String} (h : '.' ∉ name.toList) :
    ofText name = ⟨name, []⟩ := by
  unfold ofText
  rw [Text.fields_of_not_mem h]
  simp

/-- The name of a root has no dot in it. -/
theorem not_mem_root (path : String) : '.' ∉ (ofText path).root.toList := by
  unfold ofText
  split
  · next root below hfields =>
    rw [String.toList_ofList]
    have hmem : root ∈ Text.fields '.' path.toList := by
      rw [hfields]
      exact List.mem_cons_self
    exact Text.not_mem_of_mem_fields hmem
  · exact List.not_mem_nil

end RootPath

/-! ## §2. Roots. -/

namespace Environment

variable {env : Environment} {name : String} {root : Root}

theorem find?_setHost_self (hroot : env.find? name = some root) (host : Host) :
    (env.setHost name root host).find? name = some { root with host := host } :=
  Sorted.lookup_set_self hroot _

theorem find?_setHost_of_ne {other : String} (h : other ≠ name) (root : Root) (host : Host) :
    (env.setHost name root host).find? other = env.find? other :=
  Sorted.lookup_set_of_ne h ..

theorem find?_release (env : Environment) (name other : String) :
    (env.release name).find? other = env.find? other := by
  unfold release
  split <;> rfl

theorem find?_own_self (env : Environment) (name : String) (host : Host) :
    (env.own name host).find? name = some ⟨host, false⟩ :=
  Sorted.lookup_put_self ..

theorem find?_own_of_ne {other : String} (h : other ≠ name) (host : Host) :
    (env.own name host).find? other = env.find? other :=
  (Sorted.lookup_put_of_ne h ..).trans (find?_release env name other)

theorem catalog_own (env : Environment) (name : String) (host : Host) :
    (env.own name host).catalog = env.catalog := by
  show (env.release name).catalog = env.catalog
  unfold release
  split <;> rfl

/-! ## §3. Access. -/

theorem read_of_find? {path : String} (h : env.find? (RootPath.ofText path).root = some root) :
    env.read path = root.host.read (RootPath.ofText path).below := by
  unfold read
  simp only [h]

/-- **What has been read** is below some root. -/
theorem read_cases {path : String} {value : Value} (hread : env.read path = .ok value) :
    ∃ root, env.find? (RootPath.ofText path).root = some root ∧
      root.host.read (RootPath.ofText path).below = .ok value := by
  unfold read at hread
  cases hroot : env.find? (RootPath.ofText path).root with
  | none =>
      simp only [hroot] at hread
      cases hread
  | some root =>
      simp only [hroot] at hread
      exact ⟨root, rfl, hread⟩

theorem write_of_find? {path : String} (h : env.find? (RootPath.ofText path).root = some root)
    (text : String) :
    env.write path text =
      let written := root.host.write env.catalog text (RootPath.ofText path).below
      (env.setHost (RootPath.ofText path).root root written.host, written.failure) := by
  unfold write
  simp only [h]

theorem write_of_unknown {path : String} (h : env.find? (RootPath.ofText path).root = none)
    (text : String) :
    env.write path text = (env, some (.unknownRoot (RootPath.ofText path).root)) := by
  unfold write
  simp only [h]

theorem clear_of_unknown {path : String} (h : env.find? (RootPath.ofText path).root = none) :
    env.clear path = (env, some (.unknownRoot (RootPath.ofText path).root)) := by
  unfold clear
  simp only [h]

theorem clear_of_find? {path : String} (h : env.find? (RootPath.ofText path).root = some root) :
    env.clear path =
      let cleared := root.host.clear (RootPath.ofText path).below
      (env.setHost (RootPath.ofText path).root root cleared.host, cleared.failure) := by
  unfold clear
  simp only [h]

end Environment

end RuleScript
