/-
  RuleScript.Proofs.Environment.Filling
  ─────────────────────────────────────
  **What a failed write leaves behind.**

  A write fills the absent optionals that it meets before it knows whether it will
  come to an end, and does not take that back.  So what it leaves when it fails is
  the value as it was, with absent optionals on the way filled by what is empty; all
  else that a write can do is done at the end of its path, where it has succeeded.

  Main results:
    • `Host.fills_of_failure` — a failed write into a host value.
    • `fills_of_failure` — a failed write into an environment.
-/
import RuleScript.Proofs.Environment.Roots
import RuleScript.Proofs.Host.Effects

namespace RuleScript

/-! ## §1. Host values. -/

/-- The second value is the first with some of the absent optionals filled that a path
meets: one on its way, and those in what has filled it. -/
inductive Host.Fills (catalog : Host.Catalog) : Host → List String → Host → Prop
  | same {h : Host} {path : List String} : Fills catalog h path h
  | into {h child' : Host} {path : List String} {d : Descent} (hd : Descends h path d)
      (hrest : Fills catalog d.child d.rest child') : Fills catalog h path (d.rebuild child')
  | filled {inner : Shape} {content content' : Host} {path : List String}
      (hempty : inner.empty? catalog = some content)
      (hrest : Fills catalog content path content') :
      Fills catalog (.absent inner) path (.present inner content')

/-- **A failed write has filled absent optionals**, and nothing else. -/
theorem Host.fills_of_failure {catalog : Catalog} {text : String} {h : Host}
    {path : List String} {e : PathError}
    (hfailure : (h.write catalog text path).failure = some e) :
    Fills catalog h path (h.write catalog text path).host := by
  induction h, path using descent_induction catalog with
  | hstep h path ih ihFilled =>
      have hwrote := wrote_write catalog text h path
      generalize h.write catalog text path = written at hwrote hfailure
      cases hwrote with
      | into hd => exact .into hd (ih _ hd hfailure)
      | filled hempty => exact .filled hempty (ihFilled _ _ rfl hempty hfailure)
      -- What has been assigned or created has not failed.
      | assigned => cases hfailure
      | created => cases hfailure
      | refused e => exact .same

/-! ## §2. Environments. -/

namespace Environment

/-- The second environment is the first with some of the absent optionals filled that a
path meets below its root. -/
structure Fills (env : Environment) (path : String) (after : Environment) : Prop where
  catalog : after.catalog = env.catalog
  released : after.released = env.released
  /-- The other roots, those that there are and those that there are not. -/
  others : ∀ name, name ≠ (RootPath.ofText path).root → after.find? name = env.find? name
  unknown : env.find? (RootPath.ofText path).root = none →
    after.find? (RootPath.ofText path).root = none
  root : ∀ root, env.find? (RootPath.ofText path).root = some root →
    ∃ host, root.host.Fills env.catalog (RootPath.ofText path).below host ∧
      after.find? (RootPath.ofText path).root = some { root with host := host }

/-- **A failed write fills absent optionals below one root**, and does nothing else. -/
theorem fills_of_failure {env : Environment} {path text : String} {e : PathError}
    (hfailure : (env.write path text).2 = some e) : env.Fills path (env.write path text).1 := by
  cases hroot : env.find? (RootPath.ofText path).root with
  | none =>
      rw [write_of_unknown hroot]
      exact ⟨rfl, rfl, fun _ _ => rfl, id, fun root h => ⟨root.host, .same, h⟩⟩
  | some root =>
      rw [write_of_find? hroot] at hfailure ⊢
      refine ⟨rfl, rfl, fun name hne => find?_setHost_of_ne hne _ _, ?_, ?_⟩
      · intro hnone
        rw [hroot] at hnone
        cases hnone
      · intro root' h
        rw [hroot] at h
        cases h
        exact ⟨_, Host.fills_of_failure hfailure, find?_setHost_self hroot _⟩

end Environment

end RuleScript
