/-
  RuleScript.Proofs.Environment.Untouched
  ───────────────────────────────────────
  **What a write and a clear leave alone in an environment.**

  Two paths touch each other only where they start at the same root and lead to the
  same place below it, or, for a clear, where one leads to a place inside what the
  other resets.  All that is left over is read as before, by whatever spelling, and in
  whatever order hashed maps list their entries afterwards.

  Main results:
    • `reads_elsewhere_survive` — reads after a write or a clear elsewhere.
    • `clear_reaches_beyond_its_place` — a clear of an entry takes more with it than
      the place that its path leads to.
-/
import Mathlib
import RuleScript.Proofs.Environment.Roots
import RuleScript.Proofs.Host.Untouched

namespace RuleScript.Environment

open Host (Step)

/-! ## §1. Places in an environment. -/

/-- The records of all roots have independent fields. -/
def Independent (env : Environment) : Prop :=
  ∀ name root, env.find? name = some root → root.host.Independent

/-- The place that a path leads to, its root first. -/
def Leads (env : Environment) (path : String) (place : List Step) : Prop :=
  ∃ root below, env.find? (RootPath.ofText path).root = some root ∧
    root.host.Leads (RootPath.ofText path).below below ∧
    place = .root (RootPath.ofText path).root :: below

/-- The place that a clear resets, its root first. -/
def Resets (env : Environment) (path : String) (place : List Step) : Prop :=
  ∃ root below, env.find? (RootPath.ofText path).root = some root ∧
    root.host.Resets (RootPath.ofText path).below below ∧
    place = .root (RootPath.ofText path).root :: below

/-- A path leads to one place at most. -/
theorem Leads.unique {env : Environment} {path : String} {place place' : List Step}
    (h : env.Leads path place) (h' : env.Leads path place') : place = place' := by
  obtain ⟨root, below, hroot, hbelow, rfl⟩ := h
  obtain ⟨root', below', hroot', hbelow', rfl⟩ := h'
  rw [hroot] at hroot'
  cases hroot'
  rw [hbelow.unique hbelow']

/-- No hashed map in any root has two keys that are the same up to case. -/
def HashedDistinct (env : Environment) : Prop :=
  ∀ name root, env.find? name = some root → root.host.HashedDistinct

/-- The path leads to this place and reads this value there, its root first. -/
def Finds (env : Environment) (path : String) (place : List Step) (value : Value) : Prop :=
  ∃ root below, env.find? (RootPath.ofText path).root = some root ∧
    root.host.Finds (RootPath.ofText path).below below value ∧
    place = .root (RootPath.ofText path).root :: below

/-- Every root is still there, with the entries of its hashed maps in whatever order. -/
def Rearranged (env after : Environment) : Prop :=
  ∀ name root, env.find? name = some root →
    ∃ host, root.host.Rearranged host ∧ after.find? name = some { root with host := host }

section
variable {env after : Environment} {p q : String} {place : List Step} {value : Value}

theorem Rearranged.refl (env : Environment) : env.Rearranged env :=
  fun _ root hroot => ⟨root.host, .refl _, hroot⟩

theorem Finds.leads (hq : env.Finds q place value) : env.Leads q place := by
  obtain ⟨root, below, hroot, hbelow, hplace⟩ := hq
  exact ⟨root, below, hroot, hbelow.leads, hplace⟩

theorem Finds.read_eq (hq : env.Finds q place value) : env.read q = .ok value := by
  obtain ⟨root, below, hroot, hbelow, -⟩ := hq
  rw [read_of_find? hroot]
  exact hbelow.read_eq

theorem finds_of_read (hdistinct : env.HashedDistinct) (hread : env.read q = .ok value) :
    ∃ place, env.Finds q place value := by
  obtain ⟨root, hroot, hvalue⟩ := read_cases hread
  obtain ⟨below, hbelow⟩ := Host.finds_of_read (hdistinct _ root hroot) hvalue
  exact ⟨_, root, below, hroot, hbelow, rfl⟩

theorem Finds.rearranged (hq : env.Finds q place value) (hsame : env.Rearranged after) :
    after.Finds q place value := by
  obtain ⟨root, below, hroot, hbelow, hplace⟩ := hq
  obtain ⟨host, hhost, hafter⟩ := hsame _ root hroot
  exact ⟨_, below, hafter, hbelow.rearranged hhost, hplace⟩

/-! ## §2. Writes and clears. -/

/-- What is found below another root than the one whose value is replaced. -/
theorem Finds.setHost_of_ne (hq : env.Finds q place value) {name : String}
    (hne : (RootPath.ofText q).root ≠ name) (root : Root) (host : Host) :
    (env.setHost name root host).Finds q place value := by
  obtain ⟨rq, below, hroot, hbelow, hplace⟩ := hq
  exact ⟨rq, below, (find?_setHost_of_ne hne root host).trans hroot, hbelow, hplace⟩

/-- What is found in the value that a root has got. -/
theorem finds_setHost {root : Root} {host : Host} {below : List Step}
    (hroot : env.find? (RootPath.ofText q).root = some root)
    (hbelow : host.Finds (RootPath.ofText q).below below value) :
    (env.setHost (RootPath.ofText q).root root host).Finds q
      (.root (RootPath.ofText q).root :: below) value :=
  ⟨_, below, find?_setHost_self hroot host, hbelow, rfl⟩

/-- **A write leaves other places alone**, whether it succeeds or not. -/
theorem Finds.write (hq : env.Finds q place value) (hi : env.Independent) (p text : String) :
    ∃ value', (env.write p text).1.Finds q place value' ∧
      (¬env.Leads p place → value' = value) := by
  cases hp : env.find? (RootPath.ofText p).root with
  | none =>
      rw [write_of_unknown hp]
      exact ⟨value, hq, fun _ => rfl⟩
  | some rp =>
      rw [write_of_find? hp]
      by_cases hsame : (RootPath.ofText q).root = (RootPath.ofText p).root
      -- Below one root, it is the paths below it that count.
      · obtain ⟨root, below, hroot, hbelow, rfl⟩ := hq
        have hroot' := hroot
        rw [hsame, hp] at hroot'
        cases hroot'
        obtain ⟨value', hfinds, hkept⟩ :=
          hbelow.write (hi _ rp hp) env.catalog text (RootPath.ofText p).below
        rw [← hsame]
        refine ⟨value', finds_setHost hroot hfinds, fun hne => hkept (fun hleads => hne ?_)⟩
        exact ⟨rp, below, hp, hleads, by rw [hsame]⟩
      · exact ⟨value, hq.setHost_of_ne hsame _ _, fun _ => rfl⟩

/-- **A clear leaves alone what is not below the place that it resets**, whether it succeeds or
not. -/
theorem Finds.clear (hq : env.Finds q place value) (hi : env.Independent) (p : String)
    (hne : ∀ reset, env.Resets p reset → ¬reset <+: place) :
    (env.clear p).1.Finds q place value := by
  cases hp : env.find? (RootPath.ofText p).root with
  | none =>
      rw [clear_of_unknown hp]
      exact hq
  | some rp =>
      rw [clear_of_find? hp]
      by_cases hsame : (RootPath.ofText q).root = (RootPath.ofText p).root
      · obtain ⟨root, below, hroot, hbelow, rfl⟩ := hq
        have hroot' := hroot
        rw [hsame, hp] at hroot'
        cases hroot'
        rw [← hsame]
        refine finds_setHost hroot (hbelow.clear (hi _ rp hp) _ ?_)
        intro reset hreset hinside
        refine hne _ ⟨rp, reset, hp, hreset, rfl⟩ ?_
        rw [hsame]
        exact List.cons_prefix_cons.2 ⟨rfl, hinside⟩
      · exact hq.setHost_of_ne hsame _ _

end

/-! ## §3. Reads elsewhere. -/

/-- **Writes and clears touch only what they address.**  What `q` reads, it still reads
after a write on `p`, successful or not, unless both lead to one place; a write never
changes where a path leads; and after a clear of `p`, successful or not, `q` reads the same
unless what has been reset is a part of the way to it.  It does not matter in which order
hashed maps list their entries afterwards: no two keys of one are the same up to case. -/
theorem reads_elsewhere_survive {env : Environment} (hi : env.Independent)
    (hdistinct : env.HashedDistinct) {q : String} {value : Value}
    (hread : env.read q = .ok value) (p : String) :
    (∀ text after, (env.write p text).1.Rearranged after →
      (∀ place, env.Leads q place → ¬env.Leads p place) → after.read q = .ok value) ∧
    (∀ text after place, (env.write p text).1.Rearranged after →
      env.Leads q place → after.Leads q place) ∧
    (∀ after, (env.clear p).1.Rearranged after →
      (∀ place reset, env.Leads q place → env.Resets p reset → ¬reset <+: place) →
      after.read q = .ok value) := by
  obtain ⟨place, hq⟩ := finds_of_read hdistinct hread
  refine ⟨?_, ?_, ?_⟩
  · intro text after hafter hne
    obtain ⟨value', hfinds, hsame⟩ := hq.write hi p text
    rw [← hsame (hne place hq.leads)]
    exact (hfinds.rearranged hafter).read_eq
  · intro text after other hafter hleads
    rw [hleads.unique hq.leads]
    obtain ⟨value', hfinds, -⟩ := hq.write hi p text
    exact (hfinds.rearranged hafter).leads
  · intro after hafter hne
    have hfinds := hq.clear hi p (fun reset hreset => hne place reset hq.leads hreset)
    exact (hfinds.rearranged hafter).read_eq

/-- Two lent values. -/
def twoRoots (m o : Host) : Environment := ⟨[], [("m", ⟨m, true⟩), ("o", ⟨o, true⟩)], []⟩

/-- Of two lent values there are two roots. -/
theorem find?_twoRoots {m o : Host} {name : String} {root : Root}
    (hroot : (twoRoots m o).find? name = some root) :
    (name = "m" ∧ root = ⟨m, true⟩) ∨ (name = "o" ∧ root = ⟨o, true⟩) := by
  rcases List.mem_cons.1 (Host.mem_of_lookup hroot) with hm | hmem
  · exact .inl (Prod.mk.inj hm)
  · exact .inr (Prod.mk.inj (List.mem_singleton.1 hmem))

theorem forall_twoRoots {P : Host → Prop} {m o : Host} (hm : P m) (ho : P o) :
    ∀ name root, (twoRoots m o).find? name = some root → P root.host := by
  intro name root hroot
  rcases find?_twoRoots hroot with ⟨-, rfl⟩ | ⟨-, rfl⟩
  · exact hm
  · exact ho

theorem rearranged_twoRoots {m m' : Host} (hm : m.Rearranged m') (o : Host) :
    (twoRoots m o).Rearranged (twoRoots m' o) := by
  intro name root hroot
  rcases find?_twoRoots hroot with ⟨rfl, rfl⟩ | ⟨rfl, rfl⟩
  · exact ⟨m', hm, rfl⟩
  · exact ⟨o, .refl o, rfl⟩

/-- Two headers, in the order in which some hashed map lists them. -/
def sampleHeaders : List (String × Host) := [("Host", .string "h"), ("Age", .string "1")]

/-- A hashed map, and an optional that holds a text. -/
def sampleHashed : Environment :=
  twoRoots (.map .hashed .string sampleHeaders) (.present .string (.string "x"))

theorem sampleHashed_independent : sampleHashed.Independent := by
  refine forall_twoRoots (.map fun entry hentry => ?_) (.present (.string _))
  rcases List.mem_cons.1 hentry with rfl | hentry
  · exact .string _
  · rw [List.mem_singleton.1 hentry]
    exact .string _

theorem sampleHashed_distinct : sampleHashed.HashedDistinct := by
  have hheaders : (Host.map .hashed .string sampleHeaders).Distinct := by
    refine Host.distinct_map (by decide) (fun entry hentry => ?_)
    rcases List.mem_cons.1 hentry with rfl | hentry
    · exact Host.distinct_of_scalar rfl
    · rw [List.mem_singleton.1 hentry]
      exact Host.distinct_of_scalar rfl
  exact forall_twoRoots hheaders.hashed
    (Host.distinct_present (Host.distinct_of_scalar rfl)).hashed

/-- A header of a hashed map is left alone by a write of another one, in whatever order the
map lists them then, and by a clear of the other root. -/
theorem sampleHashed_reads_survive :
    (twoRoots (.map .hashed .string (("via", .string "z") :: sampleHeaders))
      (.present .string (.string "x"))).read "m.HOST" = .ok (.string "h") ∧
      (sampleHashed.clear "o").1.read "m.HOST" = .ok (.string "h") := by
  have hread : sampleHashed.read "m.HOST" = .ok (.string "h") := by cbv
  have hsurvive := fun p =>
    reads_elsewhere_survive sampleHashed_independent sampleHashed_distinct hread p
  refine ⟨(hsurvive "m.via").1 "z" _ ?_ ?_, (hsurvive "o").2.2 _ (.refl _) ?_⟩
  · -- The model lists the new header last, and this map lists it first.
    have hwrite : (sampleHashed.write "m.via" "z").1
        = twoRoots (.map .hashed .string (sampleHeaders ++ [("via", .string "z")]))
          (.present .string (.string "x")) := by
      cbv
    rw [hwrite]
    exact rearranged_twoRoots (.hashed List.perm_append_comm) _
  · rintro place - ⟨root, below, hroot, hbelow, -⟩
    cases hroot
    cases hbelow with
    | into hd =>
        cases hd with
        | entry hentry => cases hentry
  · rintro place reset ⟨_, _, -, -, rfl⟩ ⟨_, _, -, -, rfl⟩ hinside
    exact absurd (List.cons_prefix_cons.1 hinside).1 (by decide)

/-- A list of two texts. -/
def sampleList : Host := .sequence .string [.string "a", .string "b"]

/-- A list in a map, and a list in an optional. -/
def sampleRoots : Environment :=
  twoRoots (.map .ordered .strings [("Cookie", sampleList)]) (.present (.sequence .string) sampleList)

theorem sampleRoots_independent : sampleRoots.Independent := by
  have hlist : sampleList.Independent := by
    refine .sequence fun item hitem => ?_
    rcases List.mem_cons.1 hitem with rfl | hitem
    · exact .string _
    · rw [List.mem_singleton.1 hitem]
      exact .string _
  refine forall_twoRoots (.map fun entry hentry => ?_) (.present hlist)
  rw [List.mem_singleton.1 hentry]
  exact hlist

theorem sampleRoots_distinct : sampleRoots.HashedDistinct := by
  have hlist : sampleList.Distinct := by
    refine Host.distinct_sequence fun item hitem => ?_
    rcases List.mem_cons.1 hitem with rfl | hitem
    · exact Host.distinct_of_scalar rfl
    · rw [List.mem_singleton.1 hitem]
      exact Host.distinct_of_scalar rfl
  have hmap : (Host.map .ordered .strings [("Cookie", sampleList)]).Distinct :=
    Host.distinct_map (by decide) (List.forall_mem_singleton.2 hlist)
  exact forall_twoRoots hmap.hashed (Host.distinct_present hlist).hashed

theorem sampleRoots_leads_cookie :
    sampleRoots.Leads "m.cookie" [.root "m", .key "Cookie", .index 0] ∧
      sampleRoots.Leads "m.cookie.1" [.root "m", .key "Cookie", .index 1] :=
  ⟨⟨_, _, rfl, .into (.entry rfl) (.into .first (.ends rfl)), rfl⟩,
    ⟨_, _, rfl, .into (.entry rfl) (.into (.element rfl rfl) (.ends rfl)), rfl⟩⟩

theorem sampleRoots_leads_optional :
    sampleRoots.Leads "o" [.root "o", .content, .index 0] ∧
      sampleRoots.Leads "o.1" [.root "o", .content, .index 1] :=
  ⟨⟨_, _, rfl, .into .content (.into .first (.ends rfl)), rfl⟩,
    ⟨_, _, rfl, .into .content (.into (.element rfl rfl) (.ends rfl)), rfl⟩⟩

/-- **A clear reaches beyond the place that its path leads to**: the path of a list leads to
its first element, but where the list is an entry of a map, or held by an optional, a clear
of that path takes all its elements away. -/
theorem clear_reaches_beyond_its_place :
    sampleRoots.Independent ∧ sampleRoots.HashedDistinct ∧
    ∀ paths ∈ [("m.cookie", "m.cookie.1"), ("o", "o.1")],
      sampleRoots.read paths.2 = .ok (.string "b") ∧
      (∀ place reset, sampleRoots.Leads paths.2 place → sampleRoots.Leads paths.1 reset →
        ¬reset <+: place) ∧
      (sampleRoots.clear paths.1).2 = none ∧
      (sampleRoots.clear paths.1).1.read paths.2 ≠ .ok (.string "b") := by
  refine ⟨sampleRoots_independent, sampleRoots_distinct, ?_⟩
  intro paths hpaths
  rcases List.mem_cons.1 hpaths with rfl | hpaths
  · have hread : (sampleRoots.clear "m.cookie").1.read "m.cookie.1"
        = .error (.notFound "cookie" .keyed "BTreeMap<String, Vec<String>>") := by
      cbv
    refine ⟨by cbv, ?_, by cbv, ?_⟩
    · intro place reset hq hp
      rw [hq.unique sampleRoots_leads_cookie.2, hp.unique sampleRoots_leads_cookie.1]
      decide
    · rw [hread]
      intro hsame
      cases hsame
  · rw [List.mem_singleton.1 hpaths]
    have hread : (sampleRoots.clear "o").1.read "o.1"
        = .error (.absent "Option<Vec<String>>") := by
      cbv
    refine ⟨by cbv, ?_, by cbv, ?_⟩
    · intro place reset hq hp
      rw [hq.unique sampleRoots_leads_optional.2, hp.unique sampleRoots_leads_optional.1]
      decide
    · rw [hread]
      intro hsame
      cases hsame

end RuleScript.Environment
