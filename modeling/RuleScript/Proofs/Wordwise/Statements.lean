/-
  RuleScript.Proofs.Wordwise.Statements
  ─────────────────────────────────────
  **Statements that are run word by word.**

  The operands of a statement are taken while it runs, so what it takes could
  depend on the frames or on the environment.  It does not: each statement ends
  as the statement read beforehand ends, and where it goes on it has taken just the
  words that this one is written with.

  `Does` says this of a part of a statement.  It goes through a part from its first
  operation on, so the proof for a statement has the shape of the statement.

  Main result:
    • `does_statement` — one spec for all statements.
-/
import RuleScript.Proofs.Script.Reading
import RuleScript.Proofs.Wordwise.Machine

namespace RuleScript.Wordwise

open Script (Change Cursor Link Operand Statement Word)

/-! ## §1. Parts of statements. -/

/-- How a part of a statement ends that leaves the machine `m`. -/
def result (fault : Option Fault) (m : Machine) : EStateM.Result Fault Machine Unit :=
  match fault with
  | none => .ok () m
  | some fault => .error fault m

/-- From `m`, the part ends as `o` says.  If it goes on it has reached `cursor`, and
where statements take no effect it has requested nothing. -/
def Does (part : Interp Unit) (m : Machine) (o : Outcome) (cursor : Cursor) : Prop :=
  ∃ m', part.run m = result o.fault m' ∧ m'.state = o.state ∧
    (o.fault = none → m'.cursor = cursor) ∧
    (m.state.active = false → m'.requests = m.requests)

/-- Where a part ends does not matter if it fails. -/
theorem Does.congr_cursor {part : Interp Unit} {m : Machine} {o : Outcome} {c d : Cursor}
    (h : Does part m o c) (hc : o.fault = none → c = d) : Does part m o d := by
  obtain ⟨m', hrun, hstate, hcursor, hrequests⟩ := h
  exact ⟨m', hrun, hstate, fun hok => (hcursor hok).trans (hc hok), hrequests⟩

section
variable {α : Type} {c d : Cursor} {s : State} {q : List Request} {o : Outcome} {w : Word}

theorem does_pure : Does (pure ()) ⟨c, s, q⟩ s.ok c :=
  ⟨_, rfl, rfl, fun _ => rfl, fun _ => rfl⟩

theorem does_throw (fault : Fault) : Does (throw fault) ⟨c, s, q⟩ (s.fail fault) d :=
  ⟨_, rfl, rfl, nofun, fun _ => rfl⟩

theorem does_update (f : State → State) : Does (update f) ⟨c, s, q⟩ (f s).ok c :=
  ⟨⟨c, f s, q⟩, rfl, rfl, fun _ => rfl, fun _ => rfl⟩

section
variable {keyword : String} {wanted : Operand} {next : String → Interp Unit}

/-- A part that starts with an operand does what it does after it. -/
theorem does_operand {e : Cursor} (hn : c.next? = some (w, d))
    (h : Does (next w.text) ⟨d, s, q⟩ o e) :
    Does (operand keyword wanted >>= next) ⟨c, s, q⟩ o e := by
  obtain ⟨m', hrun, hrest⟩ := h
  refine ⟨m', ?_, hrest⟩
  have hop : (operand keyword wanted).run ⟨c, s, q⟩ = .ok w.text ⟨d, s, q⟩ := by
    unfold operand
    rw [EStateM.run_bind, EStateM.run_get]
    simp only [hn]
    rfl
  rw [EStateM.run_bind, hop]
  exact hrun

/-- A part fails where its first operand is missing. -/
theorem does_missing (hn : c.next? = none) :
    Does (operand keyword wanted >>= next) ⟨c, s, q⟩ (s.fail (.missingOperand keyword wanted))
      d := by
  refine ⟨⟨c, s, q⟩, ?_, rfl, nofun, fun _ => rfl⟩
  have hop : (operand keyword wanted).run ⟨c, s, q⟩
      = .error (.missingOperand keyword wanted) ⟨c, s, q⟩ := by
    unfold operand
    rw [EStateM.run_bind, EStateM.run_get]
    simp only [hn]
    rfl
  rw [EStateM.run_bind, hop]
  rfl

end

theorem does_active {next : Bool → Interp Unit} (h : Does (next s.active) ⟨c, s, q⟩ o d) :
    Does (active >>= next) ⟨c, s, q⟩ o d := h

theorem does_activeStatement_of_inactive {next : Bool → Interp Unit} (ha : s.active = false)
    (h : Does (next false) ⟨c, s, q⟩ o d) :
    Does (activeStatement >>= next) ⟨c, s, q⟩ o d := by
  obtain ⟨m', hrun, hrest⟩ := h
  refine ⟨m', ?_, hrest⟩
  have hs : activeStatement.run ⟨c, s, q⟩ = .ok false ⟨c, s, q⟩ := by
    show EStateM.run (if s.active = true then _ else _) _ = _
    rw [ha]
    rfl
  rw [EStateM.run_bind, hs]
  exact hrun

/-! Where statements take effect, any request may be made. -/

section
variable (ha : s.active = true)
include ha

theorem does_activeStatement {next : Bool → Interp Unit}
    (h : Does (next true) ⟨c, s.mapTop .runNext, q⟩ o d) :
    Does (activeStatement >>= next) ⟨c, s, q⟩ o d := by
  obtain ⟨m', hrun, hstate, hcursor, -⟩ := h
  refine ⟨m', ?_, hstate, hcursor, fun hn => by rw [ha] at hn; cases hn⟩
  have hs : activeStatement.run ⟨c, s, q⟩ = .ok true ⟨c, s.mapTop .runNext, q⟩ := by
    show EStateM.run (if s.active = true then _ else _) _ = _
    rw [if_pos ha]
    rfl
  rw [EStateM.run_bind, hs]
  exact hrun

theorem does_update_bind {f : State → State} {next : Interp Unit}
    (h : Does next ⟨c, f s, q⟩ o d) : Does (update f >>= fun _ => next) ⟨c, s, q⟩ o d := by
  obtain ⟨m', hrun, hstate, hcursor, -⟩ := h
  exact ⟨m', hrun, hstate, hcursor, fun hn => by rw [ha] at hn; cases hn⟩

section
variable {request : Request} {answer : State → Except Fault α} {next : α → Interp Unit}

theorem does_ask {a : α} (hok : answer s = .ok a)
    (h : Does (next a) ⟨c, s, q ++ [request]⟩ o d) :
    Does (ask request answer >>= next) ⟨c, s, q⟩ o d := by
  obtain ⟨m', hrun, hstate, hcursor, -⟩ := h
  refine ⟨m', ?_, hstate, hcursor, fun hn => by rw [ha] at hn; cases hn⟩
  have hask : (ask request answer).run ⟨c, s, q⟩ = .ok a ⟨c, s, q ++ [request]⟩ := by
    unfold ask
    rw [EStateM.run_bind, EStateM.run_get]
    simp only [EStateM.run_bind, EStateM.run_set, hok]
    rfl
  rw [EStateM.run_bind, hask]
  exact hrun

theorem does_ask_error {fault : Fault} (herror : answer s = .error fault) :
    Does (ask request answer >>= next) ⟨c, s, q⟩ (s.fail fault) d := by
  refine ⟨⟨c, s, q ++ [request]⟩, ?_, rfl, nofun, fun hn => by rw [ha] at hn; cases hn⟩
  have hask : (ask request answer).run ⟨c, s, q⟩ = .error fault ⟨c, s, q ++ [request]⟩ := by
    unfold ask
    rw [EStateM.run_bind, EStateM.run_get]
    simp only [EStateM.run_bind, EStateM.run_set, herror]
    rfl
  rw [EStateM.run_bind, hask]
  rfl

end

theorem does_perform {request : Request} {run : State → Outcome} :
    Does (perform request run) ⟨c, s, q⟩ (run s) c := by
  refine ⟨⟨c, (run s).state, q ++ [request]⟩, ?_, rfl, fun _ => rfl,
    fun hn => by rw [ha] at hn; cases hn⟩
  unfold perform result
  rw [EStateM.run_bind, EStateM.run_get]
  simp only [EStateM.run_bind, EStateM.run_set]
  cases (run s).fault <;> rfl

end

end

/-! ## §2. Statements. -/

section
variable {c : Cursor} {s : State} {q : List Request} (settings : Settings)

section
variable (ha : s.active = true)
include ha

theorem does_evaluate (keyword left operator right : String) :
    Does (evaluate settings keyword left operator right) ⟨c, s, q⟩
      (s.evaluate settings keyword left operator right) c := by
  unfold evaluate State.evaluate
  cases hl : s.expand keyword left with
  | error fault =>
      have htest : s.test settings keyword left operator right = .error fault := by
        unfold State.test
        rw [hl]
        rfl
      rw [htest]
      exact does_ask_error ha hl
  | ok l =>
  refine does_ask ha hl ?_
  cases hr : s.expand keyword right with
  | error fault =>
      have htest : s.test settings keyword left operator right = .error fault := by
        unfold State.test
        rw [hl, hr]
        rfl
      rw [htest]
      exact does_ask_error ha hr
  | ok r =>
  refine does_ask ha hr ?_
  rw [State.test_of_expand hl hr]
  cases hc : (Comparison.holds settings.engine l operator r).mapError (Fault.comparing keyword) with
  | error fault => exact does_ask_error ha hc
  | ok answer => exact does_ask ha hc (does_update _)

omit settings in
theorem does_assign (target value : String) :
    Does (expand target value >>= write target) ⟨c, s, q⟩ (s.assign target value) c := by
  unfold State.assign
  cases hx : s.expand target value with
  | error fault => exact does_ask_error ha hx
  | ok text => exact does_ask ha hx (does_perform ha)

theorem does_replace (target pattern replacement : String) :
    Does
      (do
        let expression ← compile settings target pattern
        let replacement ← expand target replacement
        let value ← read target
        write target (expression.replaceAll value.text replacement))
      ⟨c, s, q⟩ (s.replace settings target pattern replacement) c := by
  unfold State.replace State.replaced
  cases hp : (Comparison.pattern settings.engine pattern).mapError (Fault.comparing target) with
  | error fault => exact does_ask_error ha hp
  | ok expression =>
  refine does_ask ha hp ?_
  cases hx : s.expand target replacement with
  | error fault => exact does_ask_error ha hx
  | ok text =>
  refine does_ask ha hx ?_
  cases hv : (s.env.read target).mapError (Fault.reading target) with
  | error fault => exact does_ask_error ha hv
  | ok value => exact does_ask ha hv (does_perform ha)

end

/-- A condition takes three operands, whether it is evaluated or not. -/
theorem does_condition (link : Link) (line : Nat) :
    Does (condition settings link) ⟨c, s, q⟩
      (s.step settings ⟨line, (Script.readCondition link c.words).1⟩)
      (c.skip (Script.readCondition link c.words).1.words.tail.length) := by
  unfold condition
  rcases c.next?_cases with ⟨h₁, hw₁⟩ | ⟨left, c₁, h₁, hw₁⟩
  · rw [hw₁]
    exact does_missing h₁
  rw [hw₁]
  refine does_operand h₁ ?_
  rcases c₁.next?_cases with ⟨h₂, hw₂⟩ | ⟨operator, c₂, h₂, hw₂⟩
  · rw [hw₂]
    exact does_missing h₂
  rw [hw₂]
  refine does_operand h₂ ?_
  rcases c₂.next?_cases with ⟨h₃, hw₃⟩ | ⟨right, c₃, h₃, hw₃⟩
  · rw [hw₃]
    exact does_missing h₃
  rw [hw₃]
  refine does_operand h₃ (does_active ?_)
  have hskip : c.skip 3 = c₃ := by
    rw [Cursor.skip_of_next? h₁, Cursor.skip_of_next? h₂, Cursor.skip_of_next? h₃]
    rfl
  show Does _ _ (s.condition settings link left.text operator.text right.text) (c.skip 3)
  rw [hskip]
  unfold State.condition
  -- All three operands are taken by now, so an early end leaves none behind.
  cases ha : s.active with
  | false => exact does_update _
  | true =>
      cases link with
      | opening =>
          have hstart : (s.mapTop .startChain).active = true := ha
          exact does_update_bind ha (does_evaluate settings hstart _ _ _ _)
      | following =>
          show Does (if s.frames.top.chainHeld = true then _ else _) _
            (if s.frames.top.chainHeld = true then _ else _) _
          cases s.frames.top.chainHeld with
          | true => exact does_update _
          | false => exact does_evaluate settings ha _ _ _ _

omit settings in
/-- What depends on `activeStatement` is done where statements take effect. -/
theorem does_whereActive {part : Interp Unit} {run : State → Outcome}
    (h : s.active = true → Does part ⟨c, s.mapTop .runNext, q⟩ (run (s.mapTop .runNext)) c) :
    Does (activeStatement >>= fun b => if b = true then part else pure ()) ⟨c, s, q⟩
      (s.whereActive run) c := by
  unfold State.whereActive
  cases ha : s.active with
  | false => exact does_activeStatement_of_inactive ha does_pure
  | true => exact does_activeStatement ha (h ha)

theorem does_declare (line : Nat) :
    Does declare ⟨c, s, q⟩
      (s.step settings ⟨line, (Script.readDeclaration c.words).1⟩)
      (c.skip (Script.readDeclaration c.words).1.words.tail.length) := by
  unfold declare
  rcases c.next?_cases with ⟨h₁, hw₁⟩ | ⟨name, c₁, h₁, hw₁⟩
  · rw [hw₁]
    exact does_missing h₁
  rw [hw₁]
  refine does_operand h₁ ?_
  rcases c₁.next?_cases with ⟨h₂, hw₂⟩ | ⟨value, c₂, h₂, hw₂⟩
  · rw [hw₂]
    exact does_missing h₂
  rw [hw₂]
  refine does_operand h₂ ?_
  have hskip : c.skip 2 = c₂ := by
    rw [Cursor.skip_of_next? h₁, Cursor.skip_of_next? h₂]
    rfl
  show Does _ _ (s.declare name.text value.text) (c.skip 2)
  rw [hskip, State.declare_eq_whereActive]
  refine does_whereActive fun ha => ?_
  show Does (if s.env.contains name.text = true then _ else _) _
    (if s.env.contains name.text = true then _ else _) _
  cases s.env.contains name.text with
  | true => exact does_throw _
  | false => exact does_update fun s =>
      { s with env := s.env.own name.text (.string value.text) }

theorem does_log (line : Nat) :
    Does (log settings line) ⟨c, s, q⟩
      (s.step settings ⟨line, (Script.readLog c.words).1⟩)
      (c.skip (Script.readLog c.words).1.words.tail.length) := by
  unfold log
  rcases c.next?_cases with ⟨h₁, hw₁⟩ | ⟨message, c₁, h₁, hw₁⟩
  · rw [hw₁]
    exact does_missing h₁
  rw [hw₁]
  refine does_operand h₁ ?_
  have hskip : c.skip 1 = c₁ := Cursor.skip_of_next? h₁ 0
  show Does _ _ (s.logEntry settings line message.text) (c.skip 1)
  rw [hskip, State.logEntry_eq_whereActive]
  refine does_whereActive fun ha => ?_
  have hactive : (s.mapTop .runNext).active = true := ha
  cases settings.expandLog with
  | false => exact does_update fun s => { s with log := s.log ++ [⟨line, message.text⟩] }
  | true =>
      simp only [if_true]
      cases hx : (s.mapTop .runNext).expand "log" message.text with
      | error fault => exact does_ask_error hactive hx
      | ok text =>
          exact does_ask hactive hx
            (does_update fun s => { s with log := s.log ++ [⟨line, text⟩] })

/-- A change whose target is not refused at once takes the operands that its
operator asks for. -/
theorem does_changeWith {target : String} (hgo : (!s.knows target && s.active) = false)
    (operator : Word) :
    Does (changeWith settings target operator.text (s.knows target)) ⟨c, s, q⟩
      (s.change settings target (Script.readChange (operator :: c.words)).1)
      (c.skip (Script.readChange (operator :: c.words)).1.words.tail.length) := by
  unfold changeWith State.change
  rw [hgo]
  -- An assignment takes one word more.
  by_cases heq : operator.text = "="
  · rw [if_pos heq, Script.readChange_assign _ heq]
    rcases c.next?_cases with ⟨h₁, hw₁⟩ | ⟨value, c₁, h₁, hw₁⟩
    · rw [hw₁]
      exact does_missing h₁
    rw [hw₁]
    refine does_operand h₁ ?_
    have hskip : c.skip 1 = c₁ := Cursor.skip_of_next? h₁ 0
    show Does _ _ (s.whereActive (·.assign target value.text)) (c.skip 1)
    rw [hskip]
    exact does_whereActive fun ha =>
      does_assign (show (s.mapTop .runNext).active = true from ha) target value.text
  rw [if_neg heq]
  -- Clearing takes none.
  by_cases hunset : operator.text = "unset"
  · rw [if_pos hunset, Script.readChange_unset _ hunset]
    show Does _ _ (s.whereActive (·.unset target)) c
    exact does_whereActive fun ha =>
      does_perform (show (s.mapTop .runNext).active = true from ha)
  rw [if_neg hunset]
  -- A replacement takes two.
  by_cases hreplace : operator.text = "replace_regex"
  · rw [if_pos hreplace, Script.readChange_replace _ hreplace]
    rcases c.next?_cases with ⟨h₁, hw₁⟩ | ⟨pattern, c₁, h₁, hw₁⟩
    · rw [hw₁]
      exact does_missing h₁
    rw [hw₁]
    refine does_operand h₁ ?_
    rcases c₁.next?_cases with ⟨h₂, hw₂⟩ | ⟨replacement, c₂, h₂, hw₂⟩
    · rw [hw₂]
      exact does_missing h₂
    rw [hw₂]
    refine does_operand h₂ ?_
    have hskip : c.skip 2 = c₂ := by
      rw [Cursor.skip_of_next? h₁, Cursor.skip_of_next? h₂]
      rfl
    show Does _ _ (s.whereActive (·.replace settings target pattern.text replacement.text))
      (c.skip 2)
    rw [hskip]
    exact does_whereActive fun ha =>
      does_replace settings (show (s.mapTop .runNext).active = true from ha) target pattern.text
        replacement.text
  rw [if_neg hreplace, Script.readChange_unknown _ heq hunset hreplace]
  -- Nothing else is an operator; whose fault that is depends on the target.
  cases s.knows target with
  | true => exact does_throw _
  | false => exact does_throw _

theorem does_change (target : String) :
    Does (change settings target) ⟨c, s, q⟩
      (s.change settings target (Script.readChange c.words).1)
      (c.skip (Script.readChange c.words).1.words.length) := by
  show Does (if (!s.knows target && s.active) = true then _ else _) _ _ _
  -- A target that is refused leaves its operator in the text, but then the run is over.
  cases hgo : !s.knows target && s.active with
  | true =>
      unfold State.change
      rw [hgo]
      exact does_throw _
  | false =>
      rcases c.next?_cases with ⟨h₁, hw₁⟩ | ⟨operator, c₁, h₁, hw₁⟩
      · rw [hw₁]
        unfold State.change
        rw [hgo]
        exact does_missing h₁
      · rw [hw₁]
        refine (does_operand h₁ (does_changeWith settings hgo operator)).congr_cursor fun hok => ?_
        -- The operator and its operands are what has been taken since the target.
        cases hr : (Script.readChange (operator :: c₁.words)).1 with
        | incomplete missing =>
            rw [hr] at hok
            unfold State.change at hok
            rw [hgo] at hok
            cases hok
        | assign value => exact (Cursor.skip_of_next? h₁ 1).symm
        | unset => exact (Cursor.skip_of_next? h₁ 0).symm
        | replace pattern replacement => exact (Cursor.skip_of_next? h₁ 2).symm
        | unknown operator => exact (Cursor.skip_of_next? h₁ 0).symm

theorem does_close (line : Nat) : Does close ⟨c, s, q⟩ (s.step settings ⟨line, .closeBlock⟩) c := by
  cases hp : s.frames.pop? with
  | none =>
      rw [State.step_unmatched hp]
      refine ⟨⟨c, s, q⟩, ?_, rfl, nofun, fun _ => rfl⟩
      unfold close
      rw [EStateM.run_bind, EStateM.run_get]
      simp only [hp]
      rfl
  | some frames =>
      rw [State.step_close hp]
      refine ⟨⟨c, { s with frames := frames }, q⟩, ?_, rfl, fun _ => rfl, fun _ => rfl⟩
      unfold close
      rw [EStateM.run_bind, EStateM.run_get]
      simp only [hp]
      rfl

theorem statement_target {target : String}
    (h : target ∉ Script.reserved) (line : Nat) :
    statement settings ⟨target, line⟩ = change settings target := by
  simp only [Script.reserved, List.mem_cons, List.not_mem_nil, or_false, not_or] at h
  obtain ⟨h0, h1, h2, h3, h4, h5, h6, h7⟩ := h
  unfold statement
  rw [if_neg h0, if_neg h1, if_neg h2, if_neg h3, if_neg h4, if_neg h5, if_neg h6, if_neg h7]

/-- **A statement that is run word by word ends as the statement read beforehand
does**, and if it goes on it has taken just the words of that statement. -/
theorem does_statement (word : Word) :
    Does (statement settings word) ⟨c, s, q⟩
      (s.step settings ⟨word.line, (Script.readStatement word.text c.words).1⟩)
      (c.skip (Script.readStatement word.text c.words).1.words.tail.length) := by
  obtain ⟨text, line⟩ := word
  cases Script.head_of text with
  | blank => exact does_pure
  | condition link =>
      have hcondition : statement settings ⟨link.keyword, line⟩ = condition settings link := by
        cases link <;> rfl
      rw [Script.readStatement_condition, hcondition]
      exact does_condition settings link line
  | otherwise => exact does_update fun s => s.mapTop .otherwise
  | openBlock => exact does_update fun s => { s with frames := s.frames.push }
  | closeBlock => exact does_close settings line
  | declare => exact does_declare settings line
  | log => exact does_log settings line
  | target free =>
      rw [Script.readStatement_target free, statement_target settings free]
      exact does_change settings text

end

end RuleScript.Wordwise
