/-
  RuleScript.Proofs.Run.Unmatched
  ───────────────────────────────
  **Replacements that find nothing to replace.**

  A replacement reads a scalar, replaces what matches in its text, and writes the text
  back, also where nothing matches.  So the place is written in any case, and keeps what
  it holds where that is what its text stands for: always but for bytes that are no
  encoding of a text.  The references of the replacement are read before the text is
  looked at, so one that reads nothing is a fault whether anything matches or not.

  Of the engine of regular expressions nothing is used but that it gives a text back in
  which nothing matches (`Engine.KeepsUnmatched`).

  Main results:
    • `Environment.write_text_of_read` — a scalar's text, written where it was read.
    • `replace_of_unmatched` — a replacement without a match writes the text as it is.
    • `unmatched_replacement_keeps` — what such a statement does.
    • `unmatched_replacement_acts` — it fails, or changes bytes, though nothing matches.
-/
import Mathlib
import RuleScript.Proofs.Environment.References
import RuleScript.Proofs.Environment.Roots
import RuleScript.Proofs.Host.WriteBack
import RuleScript.Regex.Replace
import RuleScript.Run.Machine

namespace RuleScript

/-! ## §1. Scalars that are written back. -/

namespace Environment

open Host (Reaches)

/-- The scalar at the end of a path has become what its text tells, and the root that it is in
has been put together again around it; no other root has changed. -/
inductive Retold (env : Environment) (path : String) (value : Value) : Environment → Prop
  | intro {root : Root} {part new : Host} {rebuild : Host → Host}
      (hroot : env.find? (RootPath.ofText path).root = some root)
      (hr : Reaches root.host (RootPath.ofText path).below part [] rebuild)
      (hpart : part.value? = some value) (hnew : new.value? = some value.retold) :
      Retold env path value (env.setHost (RootPath.ofText path).root root (rebuild new))

section
variable {env after : Environment} {path : String} {value : Value} {kind : Host.Kind}

/-- **The text of a scalar, written where that was read.** -/
theorem write_text_of_read (hread : env.read path = .ok value)
    (hscalar : value.scalar? = some kind) :
    (env.write path value.text).2 = none ∧ env.Retold path value (env.write path value.text).1 := by
  obtain ⟨root, hroot, hhost⟩ := read_cases hread
  obtain ⟨part, new, rebuild, hr, hpart, hnew, hwrite⟩ :=
    Host.write_retold env.catalog hhost hscalar
  rw [write_of_find? hroot, hwrite]
  exact ⟨rfl, .intro hroot hr hpart hnew⟩

theorem Retold.find?_of_ne (hretold : env.Retold path value after) {name : String}
    (hne : name ≠ (RootPath.ofText path).root) : after.find? name = env.find? name := by
  cases hretold with
  | @intro root part new rebuild hroot hr hpart hnew =>
      exact find?_setHost_of_ne hne root (rebuild new)

/-- **All roots are as they were just where the text tells the scalar as it was.** -/
theorem Retold.find?_iff (hretold : env.Retold path value after)
    (hscalar : value.scalar? = some kind) :
    (∀ name, after.find? name = env.find? name) ↔ value.Legible := by
  rw [← Value.retold_eq_iff hscalar]
  cases hretold with
  | @intro root part new rebuild hroot hr hpart hnew =>
      constructor
      · intro hsame
        -- What is read of the root again is what has been written.
        have hhost := hsame (RootPath.ofText path).root
        rw [find?_setHost_self hroot, hroot, Option.some.injEq] at hhost
        have hbelow := (hr.rebuild_self new).read_eq
        have hrebuilt : rebuild new = root.host := congrArg Root.host hhost
        rw [hrebuilt, hr.read_eq, Host.read_nil_of_value? hpart,
          Host.read_nil_of_value? hnew] at hbelow
        exact (Except.ok.inj hbelow).symm
      · intro hretold name
        rw [hretold] at hnew
        have hpartnew : new = part := Host.eq_of_value? hnew hpart hscalar
        by_cases hname : name = (RootPath.ofText path).root
        · rw [hname, find?_setHost_self hroot, hroot, hpartnew, hr.rebuild_part]
        · exact find?_setHost_of_ne hname root (rebuild new)

end

end Environment

/-! ## §2. Replacements. -/

namespace State

variable {settings : Settings} {s : State} {path pattern : String} {value : Value}
  {expression : Expression}

/-- What has been read can be the target of a change. -/
theorem knows_of_read (hread : s.env.read path = .ok value) : s.knows path = true := by
  obtain ⟨root, hroot, -⟩ := Environment.read_cases hread
  unfold knows
  by_cases hdot : '.' ∈ path.toList
  · rw [List.contains_iff_mem.2 hdot, Bool.or_true]
  · rw [RootPath.ofText_of_not_mem hdot] at hroot
    unfold Environment.contains
    rw [hroot]
    rfl

/-- The references of its word are read before the text that is replaced in. -/
theorem replace_of_error (hpattern : settings.engine.compile pattern = .ok expression)
    {replacement : String} {e : PathError} (he : s.env.expand? replacement = .error e) :
    s.replace settings path pattern replacement
      = s.fail (.expanding replacement path e) := by
  unfold replace replaced Comparison.pattern expand
  rw [hpattern, he]
  rfl

/-- **A replacement without a match writes the text as it is.** -/
theorem replace_of_unmatched (hkeeps : settings.engine.KeepsUnmatched)
    (hpattern : settings.engine.compile pattern = .ok expression)
    (hread : s.env.read path = .ok value) (hnowhere : expression.occursIn value.text = false)
    {replacement text : String} (htext : s.env.expand? replacement = .ok text) :
    s.replace settings path pattern replacement = s.write path value.text := by
  unfold replace replaced Comparison.pattern expand
  rw [hpattern, hread, htext]
  show s.write path (expression.replaceAll value.text text) = s.write path value.text
  rw [hkeeps pattern expression hpattern value.text text hnowhere]

/-- A replacement takes effect, and its pattern is one and matches nowhere in the scalar that it
is made in. -/
structure Unmatched (settings : Settings) (s : State) (path pattern : String) (value : Value) :
    Prop where
  active : s.active = true
  read : s.env.read path = .ok value
  scalar : value.scalar?.isSome = true
  nowhere : (settings.engine.compile pattern).map (·.occursIn value.text) = .ok false

theorem Unmatched.exists_expression (h : s.Unmatched settings path pattern value) :
    ∃ expression, settings.engine.compile pattern = .ok expression ∧
      expression.occursIn value.text = false := by
  have hnowhere := h.nowhere
  cases hpattern : settings.engine.compile pattern with
  | error reason =>
      rw [hpattern] at hnowhere
      cases hnowhere
  | ok expression =>
      rw [hpattern] at hnowhere
      exact ⟨expression, rfl, Except.ok.inj hnowhere⟩

section
variable (h : s.Unmatched settings path pattern value) (line : Nat) {replacement : String}
include h

theorem Unmatched.step_of_error {e : PathError} (he : s.env.expand? replacement = .error e) :
    s.step settings ⟨line, .change path (.replace pattern replacement)⟩
      = (s.mapTop .runNext).fail (.expanding replacement path e) := by
  obtain ⟨expression, hpattern, -⟩ := h.exists_expression
  show s.change settings path (.replace pattern replacement) = _
  rw [change_of_active h.active (knows_of_read h.read)]
  exact replace_of_error hpattern he

theorem Unmatched.step_of_ok (hkeeps : settings.engine.KeepsUnmatched) {text : String}
    (htext : s.env.expand? replacement = .ok text) :
    s.step settings ⟨line, .change path (.replace pattern replacement)⟩
      = (s.mapTop .runNext).write path value.text := by
  obtain ⟨expression, hpattern, hnowhere⟩ := h.exists_expression
  have hread : (s.mapTop .runNext).env.read path = .ok value := h.read
  show s.change settings path (.replace pattern replacement) = _
  rw [change_of_active h.active (knows_of_read h.read)]
  exact replace_of_unmatched hkeeps hpattern hread hnowhere htext

end

/-- **A replacement that finds nothing changes nothing** where the text of the scalar tells it as
it is, if the engine gives a text back in which nothing matches.  It fails where a reference
of its word reads nothing, and has changed nothing then.  Otherwise it goes on, and all values
are as they were just where the scalar is legible: bytes that are no encoding of a text become
that of the text that they are read as, and nothing else is changed. -/
theorem unmatched_replacement_keeps (hkeeps : settings.engine.KeepsUnmatched)
    (h : s.Unmatched settings path pattern value) (line : Nat) (replacement : String) :
    let after := s.step settings ⟨line, .change path (.replace pattern replacement)⟩
    (∀ e, s.env.expand? replacement = .error e →
      after = (s.mapTop .runNext).fail (.expanding replacement path e)) ∧
    ∀ text, s.env.expand? replacement = .ok text →
      after.fault = none ∧ after.state.log = s.log ∧
        after.state.env.released = s.env.released ∧
        ((∀ name, after.state.env.find? name = s.env.find? name) ↔ value.Legible) ∧
        s.env.Retold path value after.state.env ∧
        ∀ name, name ≠ (RootPath.ofText path).root →
          after.state.env.find? name = s.env.find? name := by
  intro after
  refine ⟨fun e he => h.step_of_error line he, ?_⟩
  intro text htext
  obtain ⟨kind, hscalar⟩ := Option.isSome_iff_exists.1 h.scalar
  obtain ⟨hok, hretold⟩ := Environment.write_text_of_read h.read hscalar
  have hafter : after = (s.mapTop .runNext).write path value.text :=
    h.step_of_ok line hkeeps htext
  rw [hafter]
  refine ⟨?_, rfl, ?_, hretold.find?_iff hscalar, hretold, fun name => hretold.find?_of_ne⟩
  · show (s.env.write path value.text).2.map _ = none
    rw [hok]
    rfl
  · show (s.env.write path value.text).1.released = s.env.released
    generalize (s.env.write path value.text).1 = written at hretold
    cases hretold
    rfl

/-- A certificate with a signature, and a text. -/
def sampleSigned (signature : List UInt8) : State :=
  .start ⟨[], [("c", ⟨.record (.ofFields "Certificate" ["Subject", "SerialNumber", "Signature"])
    [.string "", .string "", .bytes signature], true⟩), ("n", ⟨.string "a", true⟩)], []⟩

theorem sampleSigned_unmatched :
    (sampleSigned [0xFF]).Unmatched (.plain Regex.engine) "c.signature" "x" (.bytes [0xFF]) :=
  ⟨rfl, by cbv, rfl, by cbv⟩

theorem sampleText_unmatched :
    (sampleSigned []).Unmatched (.plain Regex.engine) "n" "x" (.string "a") :=
  ⟨rfl, by cbv, rfl, by cbv⟩

/-- An accent is two bytes, and stays them. -/
theorem sampleSigned_keeps :
    let settings := Settings.plain Regex.engine
    let s := sampleSigned [0xC3, 0xA9]
    let after := s.step settings ⟨1, .change "c.SIGNATURE" (.replace "^e$" "$(n)")⟩
    settings.engine.KeepsUnmatched ∧
      s.Unmatched settings "c.SIGNATURE" "^e$" (.bytes [0xC3, 0xA9]) ∧ after.fault = none ∧
      ∀ name, after.state.env.find? name = s.env.find? name := by
  intro settings s after
  have hunmatched : s.Unmatched settings "c.SIGNATURE" "^e$" (.bytes [0xC3, 0xA9]) :=
    ⟨rfl, by cbv, rfl, by cbv⟩
  have hlegible : (Value.bytes [0xC3, 0xA9]).Legible := ⟨"é", by cbv⟩
  obtain ⟨hfault, -, -, hsame, -⟩ :=
    (unmatched_replacement_keeps Regex.engine_keepsUnmatched hunmatched 1 "$(n)").2 "a" (by cbv)
  exact ⟨Regex.engine_keepsUnmatched, hunmatched, hfault, hsame.2 hlegible⟩

/-- **A replacement may act though it finds nothing**: it fails where a reference of its word
reads nothing, also at a legible scalar; and where there is no reference at all, it replaces a
byte that is no text by the three bytes of what that is read as. -/
theorem unmatched_replacement_acts :
    (¬∀ (settings : Settings) (s : State) (line : Nat) (path pattern replacement : String)
        (value : Value), settings.engine.KeepsUnmatched →
      s.Unmatched settings path pattern value → value.Legible →
      (s.step settings ⟨line, .change path (.replace pattern replacement)⟩).fault = none) ∧
    ¬∀ (settings : Settings) (s : State) (line : Nat) (path pattern replacement : String)
        (value : Value), settings.engine.KeepsUnmatched →
      s.Unmatched settings path pattern value → Reference.Free replacement.toList →
      ∀ name, (s.step settings
          ⟨line, .change path (.replace pattern replacement)⟩).state.env.find? name
        = s.env.find? name := by
  constructor
  · intro h
    have hnone := h (.plain Regex.engine) (sampleSigned []) 1 "n" "x" "$(q)" _
      Regex.engine_keepsUnmatched sampleText_unmatched trivial
    have hexpand : (sampleSigned []).env.expand? "$(q)" = .error (.unknownRoot "q") := by cbv
    rw [sampleText_unmatched.step_of_error 1 hexpand] at hnone
    cases hnone
  · intro h
    have hfree : Reference.Free "y".toList := Reference.free_of_not_mem (by decide)
    -- The text that has been read of the byte is written in its place.
    have hsame (name : String) : ((sampleSigned [0xFF]).env.write "c.signature"
        (Value.bytes [0xFF]).text).1.find? name = (sampleSigned [0xFF]).env.find? name := by
      have hstep := h (.plain Regex.engine) (sampleSigned [0xFF]) 1 "c.signature" "x" "y" _
        Regex.engine_keepsUnmatched sampleSigned_unmatched hfree name
      rw [sampleSigned_unmatched.step_of_ok 1 Regex.engine_keepsUnmatched
        (Environment.expand?_of_free hfree _)] at hstep
      exact hstep
    have hread : ((sampleSigned [0xFF]).env.write "c.signature" (Value.bytes [0xFF]).text).1.read
        "c.signature" = .ok (.bytes [0xEF, 0xBF, 0xBD]) := by cbv
    have hold : (sampleSigned [0xFF]).env.read "c.signature" = .ok (.bytes [0xFF]) :=
      sampleSigned_unmatched.read
    unfold Environment.read at hread hold
    simp only [hsame] at hread
    simp only [hread] at hold
    cases hold

end State

end RuleScript
