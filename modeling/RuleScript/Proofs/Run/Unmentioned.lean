/-
  RuleScript.Proofs.Run.Unmentioned
  ─────────────────────────────────
  **A root that a script does not mention.**

  Every access of a statement goes by words of the script: by the name or the path that
  a word is, or by a reference in a word.  Text that comes from values is put into log
  entries, conditions and other values, and is never looked at as a name, a path or a
  reference again.  So a root that no word mentions neither matters nor changes.

  Main results:
    • `State.agree_step` — one statement, run twice.
    • `agree_runStatements` — a list of statements.
    • `unmentioned_root_is_inert` — whole scripts.
-/
import Mathlib
import RuleScript.Proofs.Environment.Unmentioned
import RuleScript.Proofs.Script.Wording
import RuleScript.Regex.Replace
import RuleScript.Run.Machine

namespace RuleScript

open Script (Cursor Located Statement)

/-! ## §1. States that differ in one root. -/

/-- The two states differ in one root only. -/
structure State.AgreeBut (name : String) (left right : Option Root) (s t : State) : Prop where
  frames : s.frames = t.frames
  log : s.log = t.log
  env : s.env.AgreeBut name left right t.env

/-- The two statements have ended alike, in states that differ in one root only. -/
structure Outcome.AgreeBut (name : String) (left right : Option Root) (o o' : Outcome) :
    Prop where
  fault : o.fault = o'.fault
  state : o.state.AgreeBut name left right o'.state

section
variable {settings : Settings} {name : String} {left right : Option Root} {s t : State}

theorem State.AgreeBut.ok (h : s.AgreeBut name left right t) :
    s.ok.AgreeBut name left right t.ok :=
  ⟨rfl, h⟩

theorem State.AgreeBut.fail (h : s.AgreeBut name left right t) (fault : Fault) :
    (s.fail fault).AgreeBut name left right (t.fail fault) :=
  ⟨rfl, h⟩

theorem State.AgreeBut.active_eq (h : s.AgreeBut name left right t) : s.active = t.active :=
  congrArg Frames.active h.frames

theorem State.AgreeBut.mapTop (h : s.AgreeBut name left right t) (f : Frame → Frame) :
    (s.mapTop f).AgreeBut name left right (t.mapTop f) :=
  ⟨congrArg (Frames.mapTop f) h.frames, h.log, h.env⟩

theorem State.AgreeBut.withEnv (h : s.AgreeBut name left right t) {a b : Environment}
    (henv : a.AgreeBut name left right b) :
    State.AgreeBut name left right { s with env := a } { t with env := b } :=
  ⟨h.frames, h.log, henv⟩

/-! ## §2. One statement. -/

namespace State

theorem AgreeBut.expand_eq (h : s.AgreeBut name left right t) (keyword : String) {word : String}
    (hword : ¬Mentions name word) : s.expand keyword word = t.expand keyword word := by
  unfold expand
  rw [h.env.expand?_eq hword]

theorem agree_write (h : s.AgreeBut name left right t) {path : String}
    (hpath : ¬Mentions name path) (text : String) :
    (s.write path text).AgreeBut name left right (t.write path text) := by
  obtain ⟨hfailure, henv⟩ := h.env.write (fun hroot => hpath (.inr (.inl hroot))) text
  exact ⟨congrArg (Option.map _) hfailure, h.withEnv henv⟩

theorem agree_assign (h : s.AgreeBut name left right t) {path word : String}
    (hpath : ¬Mentions name path) (hword : ¬Mentions name word) :
    (s.assign path word).AgreeBut name left right (t.assign path word) := by
  unfold assign
  rw [← h.expand_eq path hword]
  cases s.expand path word with
  | ok text => exact agree_write h hpath text
  | error fault => exact h.fail fault

theorem agree_unset (h : s.AgreeBut name left right t) {path : String}
    (hpath : ¬Mentions name path) :
    (s.unset path).AgreeBut name left right (t.unset path) := by
  obtain ⟨hfailure, henv⟩ := h.env.clear fun hroot => hpath (.inr (.inl hroot))
  exact ⟨congrArg (Option.map _) hfailure, h.withEnv henv⟩

theorem AgreeBut.replaced_eq (h : s.AgreeBut name left right t) {path : String}
    (hpath : ¬Mentions name path) (pattern : String) {replacement : String}
    (hword : ¬Mentions name replacement) :
    s.replaced settings path pattern replacement
      = t.replaced settings path pattern replacement := by
  unfold replaced
  rw [h.expand_eq path hword, h.env.read_eq (fun hroot => hpath (.inr (.inl hroot)))]

theorem agree_replace (h : s.AgreeBut name left right t) {path : String}
    (hpath : ¬Mentions name path) (pattern : String) {replacement : String}
    (hword : ¬Mentions name replacement) :
    (s.replace settings path pattern replacement).AgreeBut name left right
      (t.replace settings path pattern replacement) := by
  unfold replace
  rw [← h.replaced_eq hpath pattern hword]
  cases s.replaced settings path pattern replacement with
  | ok text => exact agree_write h hpath text
  | error fault => exact h.fail fault

theorem agree_whereActive (h : s.AgreeBut name left right t) {run : State → Outcome}
    (hrun : ∀ s t : State, s.AgreeBut name left right t →
      (run s).AgreeBut name left right (run t)) :
    (s.whereActive run).AgreeBut name left right (t.whereActive run) := by
  unfold whereActive
  rw [← h.active_eq]
  split
  · exact hrun _ _ (h.mapTop .runNext)
  · exact h.ok

theorem agree_change (h : s.AgreeBut name left right t) {target : String} {step : Script.Change}
    (hwords : ∀ text ∈ (Statement.change target step).words, ¬Mentions name text) :
    (s.change settings target step).AgreeBut name left right (t.change settings target step) := by
  have htarget : ¬Mentions name target := hwords target List.mem_cons_self
  have hoperand {text : String} (hmem : text ∈ step.words) : ¬Mentions name text :=
    hwords text (List.mem_cons_of_mem _ hmem)
  have hknows : s.knows target = t.knows target := by
    unfold knows
    rw [h.env.contains_eq fun hname => htarget (.inl hname)]
  unfold change
  rw [← hknows, ← h.active_eq]
  split
  · exact h.fail _
  cases step with
  | assign value =>
      have hvalue := hoperand (List.mem_cons_of_mem _ List.mem_cons_self)
      exact agree_whereActive h fun s t hst => agree_assign hst htarget hvalue
  | unset => exact agree_whereActive h fun s t hst => agree_unset hst htarget
  | replace pattern replacement =>
      have hreplacement : ¬Mentions name replacement :=
        hoperand (List.mem_cons_of_mem _ (List.mem_cons_of_mem _ List.mem_cons_self))
      exact agree_whereActive h fun s t hst => agree_replace hst htarget pattern hreplacement
  | incomplete missing => exact h.fail _
  | unknown operator =>
      show (if s.knows target = true then s.fail _ else s.fail _ : Outcome).AgreeBut name left right
        (if s.knows target = true then t.fail _ else t.fail _)
      split <;> exact h.fail _

theorem AgreeBut.test_eq (h : s.AgreeBut name left right t) (keyword operator : String)
    {l r : String} (hl : ¬Mentions name l) (hr : ¬Mentions name r) :
    s.test settings keyword l operator r = t.test settings keyword l operator r := by
  unfold test
  rw [h.expand_eq keyword hl, h.expand_eq keyword hr]

theorem agree_evaluate (h : s.AgreeBut name left right t) (keyword operator : String)
    {l r : String} (hl : ¬Mentions name l) (hr : ¬Mentions name r) :
    (s.evaluate settings keyword l operator r).AgreeBut name left right
      (t.evaluate settings keyword l operator r) := by
  unfold evaluate
  rw [← h.test_eq keyword operator hl hr]
  cases s.test settings keyword l operator r with
  | ok result => exact (h.mapTop _).ok
  | error fault => exact h.fail fault

theorem agree_condition (h : s.AgreeBut name left right t) (link : Script.Link)
    (operator : String) {l r : String} (hl : ¬Mentions name l) (hr : ¬Mentions name r) :
    (s.condition settings link l operator r).AgreeBut name left right
      (t.condition settings link l operator r) := by
  unfold condition
  rw [← h.active_eq]
  split
  · exact (h.mapTop _).ok
  cases link with
  | opening => exact agree_evaluate (h.mapTop _) _ operator hl hr
  | following =>
      simp only [← h.frames]
      split
      · exact (h.mapTop _).ok
      · exact agree_evaluate h _ operator hl hr

/-- **A statement that does not mention the root** ends alike in both states, and leaves the
root as it is. -/
theorem agree_step (h : s.AgreeBut name left right t) {item : Located}
    (hwords : ∀ text ∈ item.statement.words, ¬Mentions name text) :
    (s.step settings item).AgreeBut name left right (t.step settings item) := by
  obtain ⟨line, statement⟩ := item
  cases statement with
  | blank => exact h.ok
  | otherwise => exact (h.mapTop .otherwise).ok
  | openBlock => exact ⟨rfl, congrArg Frames.push h.frames, h.log, h.env⟩
  | incomplete keyword missing => exact h.fail _
  | change target step => exact agree_change h hwords
  | condition link l operator r =>
      exact agree_condition h link operator (hwords l (by simp [Statement.words]))
        (hwords r (by simp [Statement.words]))
  | closeBlock =>
      cases hp : s.frames.pop? with
      | some frames =>
          rw [step_close hp, step_close (h.frames ▸ hp)]
          exact ⟨rfl, rfl, h.log, h.env⟩
      | none =>
          rw [step_unmatched hp, step_unmatched (h.frames ▸ hp)]
          exact h.fail _
  | declare declared value =>
      have hdeclared : ¬Mentions name declared := hwords declared (by simp [Statement.words])
      have hne : declared ≠ name := fun hname => hdeclared (.inl hname)
      show (s.declare declared value).AgreeBut name left right (t.declare declared value)
      rw [declare_eq_whereActive, declare_eq_whereActive]
      refine agree_whereActive h fun s t hst => ?_
      rw [← hst.env.contains_eq hne]
      split
      · exact hst.fail _
      · exact (hst.withEnv (hst.env.own hne _)).ok
  | log message =>
      have hmessage : ¬Mentions name message := hwords message (by simp [Statement.words])
      show (s.logEntry settings line message).AgreeBut name left right
        (t.logEntry settings line message)
      rw [logEntry_eq_whereActive, logEntry_eq_whereActive]
      refine agree_whereActive h fun s t hst => ?_
      rw [← hst.expand_eq "log" hmessage]
      split
      · exact ⟨rfl, hst.frames, congrArg (· ++ _) hst.log, hst.env⟩
      · exact hst.fail _

end State

/-! ## §3. Runs. -/

/-- **Statements that do not mention the root** end alike from both states, and leave the
root as it is. -/
theorem agree_runStatements {items : List Located}
    (hwords : ∀ item ∈ items, ∀ text ∈ item.statement.words, ¬Mentions name text)
    (h : s.AgreeBut name left right t) :
    (runStatements settings s items).error = (runStatements settings t items).error ∧
      (runStatements settings s items).state.AgreeBut name left right
        (runStatements settings t items).state := by
  induction items generalizing s t with
  | nil => exact ⟨rfl, h⟩
  | cons item rest ih =>
      obtain ⟨hfault, hstate⟩ := State.agree_step h (hwords item List.mem_cons_self)
      cases hs : (s.step settings item).fault with
      | some fault =>
          rw [runStatements_stops hs, runStatements_stops (hfault.symm.trans hs)]
          exact ⟨rfl, hstate⟩
      | none =>
          rw [runStatements_goesOn hs, runStatements_goesOn (hfault.symm.trans hs)]
          exact ih (fun other hother => hwords other (List.mem_cons_of_mem _ hother)) hstate

end

/-- **A root that a script does not mention neither changes nor matters.**  From two
environments that differ in this root only, a script that mentions it in no word ends in the
same way, with the same log entries and the same values of all other roots; and the root is
in both what it was, also if it was in one of them only. -/
theorem unmentioned_root_is_inert {settings : Settings} {script : List UInt8} {name : String}
    {a b : Environment}
    (hwords : ∀ word ∈ (Cursor.start (Script.uncomment script)).words, ¬Mentions name word.text)
    (hcatalog : a.catalog = b.catalog)
    (hothers : ∀ other, other ≠ name → a.find? other = b.find? other) :
    let after := run settings a script
    let after' := run settings b script
    after.error = after'.error ∧ after.state.log = after'.state.log ∧
      (∀ other, other ≠ name → after.state.env.find? other = after'.state.env.find? other) ∧
      after.state.env.find? name = a.find? name ∧
      after'.state.env.find? name = b.find? name := by
  intro after after'
  have hstatements : ∀ item ∈ Script.statements script, ∀ text ∈ item.statement.words,
      ¬Mentions name text := by
    intro item hitem text htext
    obtain ⟨word, hword, rfl⟩ := Script.exists_word_of_mem hitem htext
    exact hwords word hword
  have hstart : (State.start a).AgreeBut name (a.find? name) (b.find? name) (.start b) :=
    ⟨rfl, rfl, hcatalog, hothers, rfl, rfl⟩
  obtain ⟨herror, hstate⟩ := @agree_runStatements settings _ _ _ _ _ _ hstatements hstart
  have hafter : after.state.AgreeBut name (a.find? name) (b.find? name) after'.state := by
    unfold after after'
    rw [state_run, state_run]
    exact hstate
  refine ⟨error_run_congr herror hstate.frames rfl, hafter.log, hafter.env.others,
    hafter.env.left, hafter.env.right⟩

/-- A script that puts the text of a reference together, and logs it. -/
def sampleAssembled : List UInt8 :=
  Utf8.encode "var d $\nx = \"$(d)(r.secret)\"\nlog $(x)"

/-- An environment with a secret. -/
def sampleSecret : Environment :=
  ⟨[], [("r", ⟨.string "secret", true⟩), ("x", ⟨.string "", true⟩)], []⟩

/-- The same without it. -/
def sampleNoSecret : Environment := ⟨[], [("x", ⟨.string "", true⟩)], []⟩

/-- The text is no reference when it comes out of a value. -/
theorem sampleAssembled_is_inert :
    (∀ word ∈ (Cursor.start (Script.uncomment sampleAssembled)).words, ¬Mentions "r" word.text) ∧
    sampleSecret.catalog = sampleNoSecret.catalog ∧
    (∀ other, other ≠ "r" → sampleSecret.find? other = sampleNoSecret.find? other) ∧
    (run (.expanding Regex.engine) sampleSecret sampleAssembled).state.log
      = [⟨3, "$(r.secret)"⟩] ∧
    (run (.expanding Regex.engine) sampleNoSecret sampleAssembled).state.log
      = [⟨3, "$(r.secret)"⟩] := by
  have hwords : ∀ word ∈ (Cursor.start (Script.uncomment sampleAssembled)).words,
      ¬Mentions "r" word.text := by
    have hall : ((Cursor.start (Script.uncomment sampleAssembled)).words.all fun word =>
        decide (¬Mentions "r" word.text)) = true := by
      cbv
    exact fun word hword => of_decide_eq_true (List.all_eq_true.1 hall word hword)
  have hothers : ∀ other, other ≠ "r" →
      sampleSecret.find? other = sampleNoSecret.find? other := by
    intro other hne
    have hkey : (other == "r") = false := beq_eq_false_iff_ne.2 hne
    unfold Environment.find? sampleSecret
    rw [List.lookup_cons, hkey]
    rfl
  have hlog : (run (.expanding Regex.engine) sampleNoSecret sampleAssembled).state.log
      = [⟨3, "$(r.secret)"⟩] := by
    cbv
  obtain ⟨-, hsame, -⟩ := @unmentioned_root_is_inert (.expanding Regex.engine) sampleAssembled "r"
    sampleSecret sampleNoSecret hwords rfl hothers
  exact ⟨hwords, rfl, hothers, hsame.trans hlog, hlog⟩

end RuleScript
