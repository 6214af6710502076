/-
  RuleScript.Proofs.Run.Skipped
  ─────────────────────────────
  **What is left of a statement that is skipped.**

  In a block that is skipped a statement has its words, and no more: it may open
  or close a block and move a flag, and it fails for its words alone.  So it
  depends on the environment only in which of two faults an unknown operator is,
  and changes neither environment nor log.

  Main results:
    • `State.step_of_inactive` — a skipped statement, in full.
    • `State.inert_step` — it has no effect, and few faults are left for it.
    • `State.step_skipped_ok` — what goes on where it runs goes on where it is
      skipped.
-/
import RuleScript.Proofs.Run.Frames
import RuleScript.Proofs.Script.Reading

namespace RuleScript

open Script (Located Statement)

namespace State

variable {settings : Settings} {s : State}

/-! ## §1. Statements that fail anyway. -/

theorem fault_change_incomplete (settings : Settings) (s : State) (target : String)
    (missing : Script.Operand) : (s.change settings target (.incomplete missing)).fault ≠ none := by
  unfold change
  split <;> exact nofun

theorem fault_change_unknown (settings : Settings) (s : State) (target operator : String) :
    (s.change settings target (.unknown operator)).fault ≠ none := by
  unfold change
  split
  · exact nofun
  · show (if s.knows target = true then _ else _ : Outcome).fault ≠ none
    split <;> exact nofun

/-- A statement that the script ends in fails, whether it is skipped or not. -/
theorem step_lacking {item : Located} (h : item.statement.lacking = true) :
    (s.step settings item).fault ≠ none := by
  obtain ⟨line, statement⟩ := item
  cases statement with
  | incomplete keyword missing => exact nofun
  | change target step =>
      cases step with
      | incomplete missing => exact fault_change_incomplete settings s target missing
      | _ => cases h
  | _ => cases h

/-! ## §2. Skipped statements. -/

/-- What a statement does where it is skipped. -/
def skipped (s : State) : Statement → Outcome
  | .blank => s.ok
  | .condition _ _ _ _ => (s.mapTop .skipNext).ok
  | .otherwise => (s.mapTop .skipNext).ok
  | .openBlock => State.ok { s with frames := s.frames.push }
  | .closeBlock =>
    match s.frames.pop? with
    | some frames => State.ok { s with frames := frames }
    | none => s.fail .unmatchedClose
  | .declare _ _ => s.ok
  | .log _ => s.ok
  | .change target (.incomplete missing) => s.fail (.missingOperand target missing)
  | .change target (.unknown operator) =>
    if s.knows target then s.fail (.unknownOperator operator target)
    else s.fail (.unexpectedItem target)
  | .change _ _ => s.ok
  | .incomplete keyword missing => s.fail (.missingOperand keyword missing)

/-- **A skipped statement, in full.** -/
theorem step_of_inactive (settings : Settings) (ha : s.active = false) (item : Located) :
    s.step settings item = s.skipped item.statement := by
  obtain ⟨line, statement⟩ := item
  cases statement with
  | blank => rfl
  | openBlock => rfl
  | closeBlock => rfl
  | incomplete keyword missing => rfl
  -- An inactive frame lets no block run, whether its chain is over or not.
  | otherwise =>
      have hskip : s.frames.top.otherwise = s.frames.top.skipNext := by
        unfold Frame.otherwise
        rw [show s.frames.top.active = false from ha]
        rfl
      show (s.mapTop .otherwise).ok = (s.mapTop .skipNext).ok
      unfold mapTop Frames.mapTop
      rw [hskip]
  | condition link left operator right =>
      show s.condition settings link left operator right = _
      unfold condition
      rw [ha]
      rfl
  | declare name value =>
      show s.declare name value = _
      unfold declare
      rw [ha]
      rfl
  | log message =>
      show s.logEntry settings line message = _
      unfold logEntry
      rw [ha]
      rfl
  | change target step =>
      -- No operand is looked at: the target only, and the operator.
      show s.change settings target step = _
      unfold change whereActive
      rw [ha, Bool.and_false]
      cases step <;> rfl

/-! ## §3. No effect. -/

end State

/-- The faults that are left for a skipped statement. -/
def Fault.arisesSkipped (s : State) : Fault → Prop
  | .missingOperand _ _ => True
  | .unexpectedItem word => s.knows word = false
  | .unknownOperator _ target => s.knows target = true
  | .unmatchedClose => s.frames.depth = 0
  | _ => False

/-- Nothing has been done to environment and log, and a fault is one of these. -/
def Outcome.Inert (s : State) (o : Outcome) : Prop :=
  o.state.env = s.env ∧ o.state.log = s.log ∧
    ∀ fault, o.fault = some fault → fault.arisesSkipped s

namespace State

variable {settings : Settings} {s : State}

theorem inert_ok {after : State} (henv : after.env = s.env) (hlog : after.log = s.log) :
    after.ok.Inert s :=
  ⟨henv, hlog, nofun⟩

theorem inert_fail {fault : Fault} (h : fault.arisesSkipped s) : (s.fail fault).Inert s := by
  refine ⟨rfl, rfl, ?_⟩
  intro fault' hfault
  cases hfault
  exact h

theorem inert_skipped (s : State) (statement : Statement) : (s.skipped statement).Inert s := by
  cases statement with
  | blank => exact inert_ok rfl rfl
  | condition link left operator right => exact inert_ok rfl rfl
  | otherwise => exact inert_ok rfl rfl
  | openBlock => exact inert_ok rfl rfl
  | declare name value => exact inert_ok rfl rfl
  | log message => exact inert_ok rfl rfl
  | incomplete keyword missing => exact inert_fail trivial
  | closeBlock =>
      unfold skipped
      cases hp : s.frames.pop? with
      | some frames => exact inert_ok rfl rfl
      | none => exact inert_fail (Frames.pop?_eq_none_iff.1 hp)
  | change target step =>
      cases step with
      | assign value => exact inert_ok rfl rfl
      | unset => exact inert_ok rfl rfl
      | replace pattern replacement => exact inert_ok rfl rfl
      | incomplete missing => exact inert_fail trivial
      -- Here alone the environment is looked at, and it decides on no more than the fault.
      | unknown operator =>
          show (if s.knows target = true then s.fail (.unknownOperator operator target)
            else s.fail (.unexpectedItem target)).Inert s
          by_cases hk : s.knows target = true
          · rw [if_pos hk]
            exact inert_fail hk
          · rw [if_neg hk]
            exact inert_fail (eq_false_of_ne_true hk)

/-- **A skipped statement changes neither environment nor log**, and it fails only
for its words. -/
theorem inert_step (settings : Settings) (ha : s.active = false) (item : Located) :
    (s.step settings item).Inert s := by
  rw [step_of_inactive settings ha]
  exact s.inert_skipped item.statement

/-- **A statement that goes on where it runs goes on where it is skipped**, whatever
the two environments are. -/
theorem step_skipped_ok {a b : State} (hb : b.active = false)
    (hdepth : a.frames.depth = b.frames.depth) {item : Located}
    (hok : (a.step settings item).fault = none) : (b.step settings item).fault = none := by
  rw [step_of_inactive settings hb]
  obtain ⟨line, statement⟩ := item
  cases statement with
  | blank => rfl
  | condition link left operator right => rfl
  | otherwise => rfl
  | openBlock => rfl
  | declare name value => rfl
  | log message => rfl
  | incomplete keyword missing => cases hok
  | closeBlock =>
      -- There is a block to close in the one state just if there is in the other.
      unfold skipped
      cases hp : b.frames.pop? with
      | some frames => rfl
      | none =>
          have ha : a.frames.pop? = none :=
            Frames.pop?_eq_none_iff.2 (hdepth.trans (Frames.pop?_eq_none_iff.1 hp))
          rw [step_unmatched ha] at hok
          cases hok
  | change target step =>
      cases step with
      | assign value => rfl
      | unset => rfl
      | replace pattern replacement => rfl
      | incomplete missing => exact absurd hok (fault_change_incomplete settings a target missing)
      | unknown operator => exact absurd hok (fault_change_unknown settings a target operator)

end State

end RuleScript
