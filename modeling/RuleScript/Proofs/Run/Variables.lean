/-
  RuleScript.Proofs.Run.Variables
  ───────────────────────────────
  **Variables that a script declares.**

  A declaration takes its name as it is written, while a path is cut at its dots and
  a reserved word starts another statement.  So every variable whose name has no dot
  can be read, and every one whose name is not reserved either can be assigned; one
  with a dot in its name is out of reach, and hides nothing.

  Main results:
    • `declared_reads_back` — a declared variable, read and assigned.
    • `dotted_variable_is_lost` — a declared variable that cannot be read.
-/
import Mathlib
import RuleScript.Proofs.Environment.References
import RuleScript.Proofs.Environment.Roots
import RuleScript.Proofs.Host.Descent
import RuleScript.Proofs.Script.Reading
import RuleScript.Regex.Replace
import RuleScript.Run.Machine

namespace RuleScript

open Script (Located Statement Word)

/-! ## §1. Names of variables. -/

namespace Environment

variable {env : Environment} {name : String}

/-- A root whose name has no dot is read by its name. -/
theorem read_root (hdot : '.' ∉ name.toList) {root : Root} (h : env.find? name = some root) :
    env.read name = root.host.read [] := by
  have hpath := RootPath.ofText_of_not_mem hdot
  rw [read_of_find? (by rw [hpath]; exact h), hpath]

/-- A root whose name has a dot changes no read: no path starts with it. -/
theorem read_own_of_mem (hdot : '.' ∈ name.toList) (host : Host) (path : String) :
    (env.own name host).read path = env.read path := by
  have hne : (RootPath.ofText path).root ≠ name := by
    rintro rfl
    exact RootPath.not_mem_root path hdot
  unfold read
  simp only [find?_own_of_ne hne]

/-- A text is written to a root that holds one. -/
theorem write_root (hdot : '.' ∉ name.toList) {old : String} {lent : Bool}
    (h : env.find? name = some ⟨.string old, lent⟩) (text : String) :
    env.write name text = (env.setHost name ⟨.string old, lent⟩ (.string text), none) := by
  have hpath := RootPath.ofText_of_not_mem hdot
  rw [write_of_find? (by rw [hpath]; exact h), hpath]
  simp only [Host.write]
  rfl

end Environment

/-! ## §2. Declarations and assignments. -/

namespace State

variable {settings : Settings} {s : State} {line : Nat} {name value : String}

/-- A declaration that has gone on has added its variable. -/
theorem step_declare (ha : s.active = true)
    (hok : (s.step settings ⟨line, .declare name value⟩).fault = none) :
    s.step settings ⟨line, .declare name value⟩
      = State.ok { s.mapTop .runNext with env := s.env.own name (.string value) } := by
  have hstep : s.step settings ⟨line, .declare name value⟩
      = if s.env.contains name = true then (s.mapTop .runNext).fail (.alreadyDeclared name)
        else State.ok { s.mapTop .runNext with env := s.env.own name (.string value) } := by
    show s.declare name value = _
    rw [declare_eq_whereActive, whereActive_of_active ha]
    rfl
  rw [hstep] at hok ⊢
  by_cases hknown : s.env.contains name = true
  · rw [if_pos hknown] at hok
    cases hok
  · rw [if_neg hknown]

/-- A word is assigned to a root that holds a text. -/
theorem step_assign_root (ha : s.active = true) (hdot : '.' ∉ name.toList) {old : String}
    {lent : Bool} (h : s.env.find? name = some ⟨.string old, lent⟩) {word : String}
    (hfree : Reference.Free word.toList) :
    s.step settings ⟨line, .change name (.assign word)⟩
      = State.ok { s.mapTop .runNext with
          env := s.env.setHost name ⟨.string old, lent⟩ (.string word) } := by
  have hknows : s.knows name = true := by
    unfold knows Environment.contains
    rw [h]
    rfl
  have hexpand : (s.mapTop .runNext).expand name word = .ok word := by
    unfold expand
    rw [Environment.expand?_of_free hfree]
    rfl
  have hwrite : (s.mapTop .runNext).write name word
      = State.ok { s.mapTop .runNext with
          env := s.env.setHost name ⟨.string old, lent⟩ (.string word) } := by
    unfold write
    rw [show (s.mapTop .runNext).env = s.env from rfl, Environment.write_root hdot h]
    rfl
  show s.change settings name (.assign word) = _
  rw [change_of_active ha hknows]
  show (s.mapTop .runNext).assign name word = _
  unfold assign
  simp only [hexpand, hwrite]

end State

/-- Where a statement starts, a reserved word is the target of no change. -/
theorem Script.readStatement_reserved {name : String} (h : name ∈ Script.reserved)
    (words : List Word) (target : String) (change : Script.Change) :
    (Script.readStatement name words).1 ≠ .change target change := by
  have hcondition (link : Script.Link) :
      (Script.readCondition link words).1 ≠ .change target change := by
    fun_cases Script.readCondition link words <;> (intro heq; cases heq)
  simp only [reserved, List.mem_cons, List.not_mem_nil, or_false] at h
  rcases h with rfl | rfl | rfl | rfl | rfl | rfl | rfl | rfl
  · intro heq
    cases heq
  · exact hcondition .opening
  · exact hcondition .following
  · intro heq
    cases heq
  · intro heq
    cases heq
  · intro heq
    cases heq
  · show (Script.readDeclaration words).1 ≠ _
    fun_cases Script.readDeclaration words <;> (intro heq; cases heq)
  · show (Script.readLog words).1 ≠ _
    fun_cases Script.readLog words <;> (intro heq; cases heq)

/-! ## §3. Declared variables. -/

/-- **A declared variable can be read back**, if its name has no dot; and if its name is
not reserved either, a statement can assign it a word without references, which is then
read.  A name with a dot reads what it read before. -/
theorem declared_reads_back {settings : Settings} {s : State} {line : Nat} {name value : String}
    (ha : s.active = true)
    (hok : (s.step settings ⟨line, .declare name value⟩).fault = none) :
    let after := (s.step settings ⟨line, .declare name value⟩).state
    ('.' ∉ name.toList → after.env.read name = .ok (.string value)) ∧
    ('.' ∉ name.toList → name ∉ Script.reserved →
      ∀ equals word : Word, equals.text = "=" → Reference.Free word.text.toList →
        (∀ rest, Script.readStatement name (equals :: word :: rest)
          = (.change name (.assign word.text), rest)) ∧
        ∀ line, (after.step settings ⟨line, .change name (.assign word.text)⟩).fault = none ∧
          (after.step settings ⟨line, .change name (.assign word.text)⟩).state.env.read name
            = .ok (.string word.text)) ∧
    (name ∈ Script.reserved → ∀ words target change,
      (Script.readStatement name words).1 ≠ .change target change) ∧
    ('.' ∈ name.toList → after.env.read name = s.env.read name) := by
  intro after
  have hafter : after = { s.mapTop .runNext with env := s.env.own name (.string value) } :=
    congrArg Outcome.state (State.step_declare ha hok)
  have hroot : after.env.find? name = some ⟨.string value, false⟩ := by
    rw [hafter]
    exact Environment.find?_own_self ..
  refine ⟨?_, ?_, ?_, ?_⟩
  · intro hdot
    rw [Environment.read_root hdot hroot]
    exact Host.read_nil_of_value? rfl
  · intro hdot hfree equals word hequals hword
    refine ⟨?_, ?_⟩
    · intro rest
      rw [Script.readStatement_target hfree, Script.readChange_assign _ hequals]
    · intro line'
      have hactive : after.active = true := by
        rw [hafter]
        exact ha
      rw [State.step_assign_root hactive hdot hroot hword]
      refine ⟨rfl, ?_⟩
      refine (Environment.read_root hdot (Environment.find?_setHost_self hroot _)).trans ?_
      exact Host.read_nil_of_value? rfl
  · intro hreserved words target change
    exact Script.readStatement_reserved hreserved words target change
  · intro hdot
    rw [hafter]
    exact Environment.read_own_of_mem hdot _ _

/-- A state without variables. -/
def sampleState : State := .start (.empty [])

/-- The declared `x` is read, and read again after an assignment. -/
theorem sampleState_reads_back :
    let settings := Settings.plain Regex.engine
    let after := (sampleState.step settings ⟨1, .declare "x" "1"⟩).state
    after.env.read "x" = .ok (.string "1") ∧
      (after.step settings ⟨2, .change "x" (.assign "2")⟩).state.env.read "x"
        = .ok (.string "2") := by
  have hok : (sampleState.step (.plain Regex.engine) ⟨1, .declare "x" "1"⟩).fault = none := by
    decide
  have hdot : '.' ∉ "x".toList := by decide
  have hfree : Reference.Free "2".toList := Reference.free_of_not_mem (by decide)
  obtain ⟨hread, hassign, -, -⟩ := declared_reads_back (s := sampleState) rfl hok
  exact ⟨hread hdot, ((hassign hdot (by decide) ⟨"=", 2⟩ ⟨"2", 2⟩ rfl hfree).2 2).2⟩

/-- **Some declared variables are out of reach**: the path `a.b` starts at a root `a` that
there is not, and no statement assigns what is called `if`. -/
theorem declared_out_of_reach :
    (sampleState.step (.plain Regex.engine) ⟨1, .declare "a.b" "1"⟩).fault = none ∧
    (sampleState.step (.plain Regex.engine) ⟨1, .declare "a.b" "1"⟩).state.env.read "a.b"
      = .error (.unknownRoot "a") ∧
    (sampleState.step (.plain Regex.engine) ⟨1, .declare "if" "1"⟩).fault = none ∧
    ∀ words target change, (Script.readStatement "if" words).1 ≠ .change target change :=
  ⟨by decide, by cbv, by decide, Script.readStatement_reserved (by decide)⟩

end RuleScript
