/-
  RuleScript.Proofs.Structured.Actions
  ────────────────────────────────────
  **Plain statements have the effect they are evaluated to.**

  A run of flat statements is compared with a computation on environment and log:
  both end alike, and where nothing fails the frames are as stated.  Such runs
  compose as computations do.  What a plain statement does where statements take
  effect is one such run.

  Main results:
    • `Performs.append` — runs compose.
    • `Action.performs` — a plain statement has its effect.
-/
import RuleScript.Proofs.Structured.Program

namespace RuleScript.Structured

open Script (Located Link)

/-! ## §1. Runs with an effect. -/

/-- The part of a state that a program acts on. -/
def worldOf (s : State) : World := ⟨s.env, s.log⟩

/-- How a run ends, the frames left aside. -/
def ending (r : RunResult) : EStateM.Result ScriptError World Unit :=
  match r.error with
  | none => .ok () (worldOf r.state)
  | some e => .error e (worldOf r.state)

/-- How a statement on `line` ends. -/
def ended (line : Nat) (o : Outcome) : EStateM.Result ScriptError World Unit :=
  match o.fault with
  | none => .ok () (worldOf o.state)
  | some fault => .error ⟨fault, line⟩ (worldOf o.state)

/-- A run of `items` from `s` has this effect, and where no statement fails it
leaves frames with the property `post`. -/
def Performs (settings : Settings) (s : State) (items : List Located) (effect : Effect Unit)
    (post : Frames → Prop) : Prop :=
  ending (runStatements settings s items) = effect.run (worldOf s) ∧
    ((runStatements settings s items).error = none →
      post (runStatements settings s items).state.frames)

section
variable {settings : Settings} {s : State} {effect : Effect Unit} {mid post : Frames → Prop}

theorem Performs.nil (h : post s.frames) : Performs settings s [] (pure ()) post :=
  ⟨rfl, fun _ => h⟩

theorem Performs.mono {items : List Located} (h : Performs settings s items effect mid)
    (hpost : ∀ frames, mid frames → post frames) : Performs settings s items effect post :=
  ⟨h.1, fun hn => hpost _ (h.2 hn)⟩

/-- **Runs one after the other have their effects one after the other.** -/
theorem Performs.append {first second : List Located} {next : Effect Unit}
    (h : Performs settings s first effect mid)
    (hnext : ∀ s', mid s'.frames → Performs settings s' second next post) :
    Performs settings s (first ++ second) (effect >>= fun _ => next) post := by
  obtain ⟨hend, hmid⟩ := h
  unfold Performs
  rw [runStatements_append]
  cases hr : runStatements settings s first with
  | mk s' error =>
      rw [hr] at hend hmid
      rw [EStateM.run_bind, ← hend]
      -- After a failure neither the second run starts nor the second effect.
      cases error with
      | none => exact hnext s' (hmid rfl)
      | some e => exact ⟨rfl, fun hn => by cases hn⟩

/-- A run without effect may stand in front. -/
theorem Performs.pass_append {first second : List Located}
    (h : Performs settings s first (pure ()) mid)
    (hnext : ∀ s', mid s'.frames → Performs settings s' second effect post) :
    Performs settings s (first ++ second) effect post := by
  have happend := h.append hnext
  rwa [pure_bind] at happend

/-- A run without effect may come after. -/
theorem Performs.append_pass {first second : List Located}
    (h : Performs settings s first effect mid)
    (hnext : ∀ s', mid s'.frames → Performs settings s' second (pure ()) post) :
    Performs settings s (first ++ second) effect post := by
  have happend := h.append hnext
  rwa [bind_pure_unit] at happend

/-- One statement that succeeds and has no effect. -/
theorem Performs.step {item : Located} {t : State} (h : s.step settings item = t.ok)
    (hworld : worldOf t = worldOf s) (hpost : post t.frames) :
    Performs settings s [item] (pure ()) post := by
  have hrun : runStatements settings s [item] = ⟨t, none⟩ := by
    rw [runStatements, h]
    rfl
  unfold Performs
  rw [hrun]
  exact ⟨congrArg (EStateM.Result.ok ()) hworld, fun _ => hpost⟩

/-- One statement whose outcome is the one of the effect. -/
theorem Performs.single {item : Located}
    (heffect : effect.run (worldOf s) = ended item.line (s.step settings item))
    (hpost : (s.step settings item).fault = none → post (s.step settings item).state.frames) :
    Performs settings s [item] effect post := by
  unfold Performs
  rw [runStatements, heffect]
  cases hs : s.step settings item with
  | mk s' fault =>
      rw [hs] at hpost
      cases fault with
      | none => exact ⟨rfl, fun _ => hpost rfl⟩
      | some fault => exact ⟨rfl, fun hn => by cases hn⟩

end

/-! ## §2. Partial operations. -/

section
variable {α ε : Type}

theorem run_attempt (line : Nat) (fault : ε → Fault) (x : Except ε α) (w : World) :
    (attempt line fault x).run w =
      match x with
      | .ok a => .ok a w
      | .error e => .error ⟨fault e, line⟩ w := by
  cases x <;> rfl

theorem run_expand (line : Nat) (keyword word : String) (s : State) :
    (expand line keyword word).run (worldOf s) =
      match s.expand keyword word with
      | .ok text => .ok text (worldOf s)
      | .error fault => .error ⟨fault, line⟩ (worldOf s) := by
  unfold expand State.expand
  rw [EStateM.run_bind, EStateM.run_get]
  show (attempt line _ (s.env.expand? word)).run (worldOf s) = _
  rw [run_attempt]
  cases s.env.expand? word <;> rfl

end

theorem run_condition (settings : Settings) (c : Condition) (line : Nat) (link : Link)
    (s : State) :
    (c.eval settings line link).run (worldOf s) =
      match s.test settings link.keyword c.left c.operator c.right with
      | .ok result => .ok result (worldOf s)
      | .error fault => .error ⟨fault, line⟩ (worldOf s) := by
  unfold Condition.eval
  -- Left, right, comparison: the first of them that fails gives the fault on both sides.
  rw [EStateM.run_bind, run_expand]
  cases hl : s.expand link.keyword c.left with
  | error fault =>
      unfold State.test
      rw [hl]
      rfl
  | ok left =>
      simp only [EStateM.run_bind, run_expand]
      cases hr : s.expand link.keyword c.right with
      | error fault =>
          unfold State.test
          rw [hl, hr]
          rfl
      | ok right =>
          rw [State.test_of_expand hl hr]
          simp only [run_attempt]
          cases Comparison.holds settings.engine left c.operator right <;> rfl

/-! ## §3. Plain statements. -/

/-- The effect ends as the outcome does, and the frames stay as they are. -/
def Agrees (line : Nat) (s : State) (effect : Effect Unit) (o : Outcome) : Prop :=
  effect.run (worldOf s) = ended line o ∧ o.state.frames = s.frames

/-- What is done to the environment, and how it fails. -/
theorem agrees_alter (line : Nat) (fault : PathError → Fault)
    (change : Environment → Environment × Option PathError) (s : State) :
    Agrees line s (alter line fault change)
      ⟨{ s with env := (change s.env).1 }, (change s.env).2.map fault⟩ := by
  refine ⟨?_, rfl⟩
  unfold alter ended
  simp only [EStateM.run_bind, EStateM.run_get, EStateM.run_set]
  cases hfailure : (change s.env).2 with
  | none =>
      simp only [worldOf, hfailure]
      rfl
  | some e =>
      simp only [worldOf, hfailure]
      rfl

theorem agrees_declare (settings : Settings) (line : Nat) (name value : String) (s : State) :
    Agrees line s ((Action.declare name value).eval settings line)
      (if s.env.contains name then s.fail (.alreadyDeclared name)
      else State.ok { s with env := s.env.own name (.string value) }) := by
  unfold Agrees
  rw [Action.eval, EStateM.run_bind, EStateM.run_get]
  show EStateM.run (if s.env.contains name then _ else _) _ = _ ∧ _
  by_cases hc : s.env.contains name = true
  · rw [if_pos hc, if_pos hc]
    exact ⟨rfl, rfl⟩
  · rw [if_neg hc, if_neg hc]
    exact ⟨rfl, rfl⟩

theorem agrees_log (settings : Settings) (line : Nat) (message : String) (s : State) :
    Agrees line s ((Action.log message).eval settings line)
      (match if settings.expandLog then s.expand "log" message else .ok message with
      | .ok message => State.ok { s with log := s.log ++ [⟨line, message⟩] }
      | .error fault => s.fail fault) := by
  unfold Agrees
  rw [Action.eval]
  cases settings.expandLog with
  | false => exact ⟨rfl, rfl⟩
  | true =>
      simp only [if_true]
      rw [EStateM.run_bind, run_expand]
      cases s.expand "log" message with
      | ok text => exact ⟨rfl, rfl⟩
      | error fault => exact ⟨rfl, rfl⟩

theorem agrees_assign (line : Nat) (target value : String) (s : State) :
    Agrees line s (expand line target value >>= fun text => write line target text)
      (s.assign target value) := by
  unfold Agrees State.assign
  rw [EStateM.run_bind, run_expand]
  cases s.expand target value with
  | error fault => exact ⟨rfl, rfl⟩
  | ok text => exact agrees_alter line _ _ s

theorem agrees_replace (settings : Settings) (line : Nat)
    (target pattern replacement : String) (s : State) :
    Agrees line s
      (do
        let expression ← attempt line (.comparing target)
          (Comparison.pattern settings.engine pattern)
        let replacement ← expand line target replacement
        let world ← get
        let value ← attempt line (.reading target) (world.env.read target)
        write line target (expression.replaceAll value.text replacement))
      (s.replace settings target pattern replacement) := by
  unfold Agrees State.replace State.replaced
  -- Pattern, replacement and value are looked at in this order on both sides.
  rw [EStateM.run_bind, run_attempt]
  cases Comparison.pattern settings.engine pattern with
  | error e => exact ⟨rfl, rfl⟩
  | ok expression =>
      simp only [EStateM.run_bind, run_expand]
      cases hx : s.expand target replacement with
      | error fault => exact ⟨rfl, rfl⟩
      | ok replacement =>
          simp only [EStateM.run_get, run_attempt]
          rw [show (worldOf s).env = s.env from rfl]
          cases hv : s.env.read target with
          | error e => exact ⟨rfl, rfl⟩
          | ok value => exact agrees_alter line _ _ s

theorem run_requireTarget (line : Nat) (target : String) (s : State) :
    (requireTarget line target).run (worldOf s) =
      if s.knows target then .ok () (worldOf s)
      else .error ⟨.unexpectedItem target, line⟩ (worldOf s) := by
  unfold requireTarget State.knows
  rw [EStateM.run_bind, EStateM.run_get]
  show EStateM.run (if s.env.contains target || target.toList.contains '.' then _ else _) _ = _
  by_cases h : (s.env.contains target || target.toList.contains '.') = true
  · rw [if_pos h, if_pos h]
    rfl
  · rw [if_neg h, if_neg h]
    rfl

section
variable {settings : Settings} {s : State} {effect : Effect Unit} (ha : s.active = true)
include ha

/-- What is done where statements take effect is done here, and lets a bare block that
comes next run. -/
theorem Performs.whereActive {item : Located} {run : State → Outcome}
    (hstep : s.step settings item = s.whereActive run)
    (hrun : Agrees item.line (s.mapTop .runNext) effect (run (s.mapTop .runNext))) :
    Performs settings s [item] effect (· = s.frames.mapTop .runNext) := by
  have hactive : s.step settings item = run (s.mapTop .runNext) := by
    rw [hstep, State.whereActive, if_pos ha]
  obtain ⟨heffect, hframes⟩ := hrun
  refine Performs.single ?_ ?_
  · rw [hactive]
    exact heffect
  · rw [hactive]
    intro _
    exact hframes

/-- A change of a target that is known takes effect; the target is looked at first. -/
theorem Performs.change {line : Nat} {target : String} {step : Script.Change}
    (run : State → Outcome)
    (hstep : s.knows target = true →
      s.step settings ⟨line, .change target step⟩ = s.whereActive run)
    (hrun : Agrees line (s.mapTop .runNext) effect (run (s.mapTop .runNext))) :
    Performs settings s [⟨line, .change target step⟩]
      (requireTarget line target >>= fun _ => effect) (· = s.frames.mapTop .runNext) := by
  by_cases hk : s.knows target = true
  -- The flag that is set for the next block makes no difference to what is known.
  · obtain ⟨heffect, hframes⟩ := hrun
    refine Performs.whereActive ha (hstep hk) ⟨?_, hframes⟩
    rw [EStateM.run_bind, show worldOf (s.mapTop .runNext) = worldOf s from rfl,
      run_requireTarget, if_pos hk]
    exact heffect
  · have hfail : s.step settings ⟨line, .change target step⟩
        = s.fail (.unexpectedItem target) := by
      rw [Bool.not_eq_true] at hk
      show s.change settings target step = _
      unfold State.change
      rw [hk, ha]
      rfl
    refine Performs.single ?_ ?_
    · rw [EStateM.run_bind, run_requireTarget, if_neg hk, hfail]
      rfl
    · rw [hfail]
      intro hn
      cases hn

/-- **A plain statement has its effect**, and a bare block after it runs. -/
theorem Action.performs (action : Action) (line : Nat) :
    Performs settings s [⟨line, action.statement⟩] (action.eval settings line)
      (· = s.frames.mapTop .runNext) := by
  cases action with
  | declare name value =>
      exact Performs.whereActive ha (s.declare_eq_whereActive name value)
        (agrees_declare settings line name value _)
  | log message =>
      exact Performs.whereActive ha (s.logEntry_eq_whereActive settings line message)
        (agrees_log settings line message _)
  -- Where the target is known, the operator alone decides what is done.
  | assign target value =>
      refine Performs.change ha (·.assign target value) (fun hk => ?_)
        (agrees_assign line target value _)
      show s.change settings target (.assign value) = _
      unfold State.change
      rw [hk]
      rfl
  | unset target =>
      refine Performs.change ha (·.unset target) (fun hk => ?_) (agrees_alter line _ _ _)
      show s.change settings target .unset = _
      unfold State.change
      rw [hk]
      rfl
  | replace target pattern replacement =>
      refine Performs.change ha (·.replace settings target pattern replacement) (fun hk => ?_)
        (agrees_replace settings line target pattern replacement _)
      show s.change settings target (.replace pattern replacement) = _
      unfold State.change
      rw [hk]
      rfl

end

end RuleScript.Structured
