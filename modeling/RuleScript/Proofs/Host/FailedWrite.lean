/-
  RuleScript.Proofs.Host.FailedWrite
  ──────────────────────────────────
  **What a failed write leaves of a host value.**

  A failed write has filled absent optionals on its path, and nothing else.  Every
  part that there was is therefore still there, with the face that it had, and every
  path that led to a value leads to the same one: an optional that has been filled
  was absent, so no part was in it and no path could be read through it.

  Main results:
    • `Fills.keeps_face` — filling optionals keeps every part in its place.
    • `Fills.read_eq` — and keeps what has been read.
    • `failed_write_keeps` — a failed write into a host value.
-/
import Mathlib
import RuleScript.Proofs.Environment.Filling
import RuleScript.Proofs.Host.Places

namespace RuleScript.Host

section
variable {catalog : Catalog} {h after : Host} {path : List String}

/-- **Filling optionals keeps every part in its place**, with its face. -/
theorem Fills.keeps_face (hfills : Fills catalog h path after) :
    Keeps (fun part part' => part'.face = part.face) h after := by
  induction hfills with
  | same =>
      intro place part hpart
      exact ⟨part, hpart, rfl⟩
  | into hd hrest ih => exact hd.keeps_rebuild (fun _ => rfl) (hd.face_rebuild _) ih
  -- Nothing was in the optional.
  | filled hempty hrest ih => exact keeps_of_part?_none (fun step => by cases step <;> rfl) rfl

/-- **Filling optionals keeps what has been read.** -/
theorem Fills.read_eq (hfills : Fills catalog h path after) {q : List String} {value : Value}
    (hread : h.read q = .ok value) : after.read q = .ok value := by
  induction hfills generalizing q with
  | same => exact hread
  | @into h child' path d hd hrest ih =>
      rcases read_cases hread with ⟨rfl, hvalue⟩ | ⟨e, he, hchild⟩
      · exact read_nil_of_value? ((hd.value?_rebuild child').trans hvalue)
      · obtain ⟨f, hf, -, hfrest, hsame | ⟨hold, hnew⟩⟩ := hd.rebuild_cases he child'
        · rw [hf.read_eq, hsame, hfrest]
          exact hchild
        · rw [hf.read_eq, hnew, hfrest]
          rw [hold] at hchild
          exact ih hchild
  | filled hempty hrest ih =>
      rw [read] at hread
      cases hread

end

/-- **What a failed write leaves.**  The value is as it was, but that absent optionals on the
path may have been filled with what is empty: every scalar, every key and every element is
where it was, no sequence and no keyed container has got longer or shorter, and what a path
read before, it reads still. -/
theorem failed_write_keeps {catalog : Catalog} {text : String} {h : Host} {path : List String}
    {e : PathError} (hfailure : (h.write catalog text path).failure = some e) :
    let after := (h.write catalog text path).host
    Fills catalog h path after ∧
    (∀ place part, h.at? place = some part →
      ∃ part', after.at? place = some part' ∧ part'.face = part.face) ∧
    ∀ q value, h.read q = .ok value → after.read q = .ok value := by
  intro after
  have hfills : Fills catalog h path after := fills_of_failure hfailure
  exact ⟨hfills, hfills.keeps_face, fun _ _ hread => hfills.read_eq hread⟩

/-- A record with a name and an absent optional of a map of integers. -/
def sampleRecord : Host :=
  .record (.ofFields "Sample" ["name", "counts"])
    [.string "n", .absent (.map .ordered .integer)]

/-- A word that is no number leaves an empty map behind, and the name as it was. -/
theorem failed_write_keeps_sample :
    (sampleRecord.write [] "x" ["counts", "k"]).failure = some (.notInteger "x" .invalidDigit) ∧
    (sampleRecord.write [] "x" ["counts", "k"]).host.read ["counts"]
      = .ok (.composite .keyed "BTreeMap<String, i64>") ∧
    (sampleRecord.write [] "x" ["counts", "k"]).host.read ["name"] = .ok (.string "n") := by
  have hfailure : (sampleRecord.write [] "x" ["counts", "k"]).failure
      = some (.notInteger "x" .invalidDigit) := by cbv
  obtain ⟨-, -, hreads⟩ := failed_write_keeps hfailure
  exact ⟨hfailure, by cbv, hreads ["name"] (.string "n") (by cbv)⟩

end RuleScript.Host
