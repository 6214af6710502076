/-
  RuleScript.Proofs.Structured.Simulation
  ───────────────────────────────────────
  **The stack of frames does what evaluation by recursion does.**

  A run of the flat statements of a program keeps three flags for every open
  block and never resets them when a block closes.  The claim that carries the
  induction: where statements take effect, running the statements of a program
  has the effect of evaluating it and comes back to the frames it started on, up
  to the flags of the innermost one; where they do not, it has no effect at all.

  Main results:
    • `Performs.branch` — a condition leads to the branch that it decides on.
    • `Program.passes` — a program in a skipped block has no effect.
    • `Program.performs` — a program in a block that runs has its effect.
-/
import RuleScript.Proofs.Run.Skipped
import RuleScript.Proofs.Structured.Actions

namespace RuleScript.Structured

open Script (Located Link)

/-! ## §1. Conditions and blocks. -/

/-- The frames after a condition has been decided: the next block runs if it held,
and then no further branch of its chain does. -/
def decided (frames : Frames) (result : Bool) : Frames :=
  frames.mapTop fun top => { top with nextRuns := result, chainHeld := result }

/-- A condition that is evaluated. -/
theorem step_condition (settings : Settings) {s : State} (ha : s.active = true) (line : Nat)
    (c : Condition) {link : Link} (hlink : link = .following → s.frames.top.chainHeld = false) :
    ∃ s', worldOf s' = worldOf s ∧ s.step settings ⟨line, c.statement link⟩ =
      match s.test settings link.keyword c.left c.operator c.right with
      | .ok result => State.ok { s with frames := decided s.frames result }
      | .error fault => s'.fail fault := by
  -- A condition that opens a chain forgets the chain before it, even if it fails.
  cases link with
  | opening =>
      refine ⟨s.mapTop .startChain, rfl, ?_⟩
      show s.condition settings .opening c.left c.operator c.right = _
      unfold State.condition
      rw [ha]
      show (s.mapTop .startChain).evaluate settings "if" c.left c.operator c.right = _
      unfold State.evaluate
      rw [show (s.mapTop .startChain).test settings "if" c.left c.operator c.right
        = s.test settings Link.opening.keyword c.left c.operator c.right from rfl]
      cases s.test settings Link.opening.keyword c.left c.operator c.right with
      | ok result => cases result <;> rfl
      | error fault => rfl
  | following =>
      -- None has held so far, so the flag is this result alone.
      refine ⟨s, rfl, ?_⟩
      have hheld := hlink rfl
      show s.condition settings .following c.left c.operator c.right = _
      unfold State.condition
      rw [ha]
      show (if s.frames.top.chainHeld then _
        else s.evaluate settings "elseif" c.left c.operator c.right) = _
      rw [hheld, if_neg Bool.false_ne_true]
      unfold State.evaluate
      rw [show s.test settings "elseif" c.left c.operator c.right
        = s.test settings Link.following.keyword c.left c.operator c.right from rfl]
      cases s.test settings Link.following.keyword c.left c.operator c.right with
      | ok result =>
          show State.ok (s.mapTop (·.decided result)) = State.ok { s with frames := _ }
          unfold State.mapTop decided Frames.mapTop Frame.decided
          simp only [hheld, Bool.false_or]
      | error fault => rfl

section
variable {settings : Settings} {s : State} {effect : Effect Unit} {post : Frames → Prop}

/-- **A condition leads to the branch that it decides on.** -/
theorem Performs.branch (ha : s.active = true) {line : Nat} {c : Condition} {link : Link}
    (hlink : link = .following → s.frames.top.chainHeld = false) {items : List Located}
    {next : Bool → Effect Unit}
    (hnext : ∀ result,
      Performs settings { s with frames := decided s.frames result } items (next result) post) :
    Performs settings s (⟨line, c.statement link⟩ :: items) (c.eval settings line link >>= next)
      post := by
  obtain ⟨s', hworld, hstep⟩ := step_condition settings ha line c hlink
  have hrun := run_condition settings c line link s
  unfold Performs
  rw [runStatements, hstep, EStateM.run_bind, hrun]
  cases s.test settings link.keyword c.left c.operator c.right with
  | ok result => exact hnext result
  | error fault => exact ⟨congrArg (EStateM.Result.error _) hworld, fun hn => by cases hn⟩

/-- **Braces come back to the frames they were opened on.** -/
theorem Performs.braces {opened closed : Nat} {body : Program}
    (h : ∀ s' : State, s'.frames = s.frames.push →
      Performs settings s' body.flat effect (·.below = s'.frames.below)) :
    Performs settings s (Block.braces opened body closed).flat effect (· = s.frames) := by
  have hopen : Performs settings s [⟨opened, .openBlock⟩] (pure ()) (· = s.frames.push) :=
    Performs.step (t := { s with frames := s.frames.push }) rfl rfl rfl
  -- The flags of the inner frame are dropped with it, whatever they are by then.
  have hclose : ∀ s' : State, s'.frames.below = s.frames.push.below →
      Performs settings s' [⟨closed, .closeBlock⟩] (pure ()) (· = s.frames) := by
    intro s' hbelow
    have hpop : s'.frames.pop? = some s.frames := by
      unfold Frames.pop?
      rw [hbelow]
      rfl
    exact Performs.step (State.step_close hpop closed) rfl rfl
  refine hopen.pass_append fun s' hs' => (h s' hs').append_pass fun s'' hs'' => ?_
  exact hclose s'' (hs''.trans (congrArg Frames.below hs'))

end

/-! ## §2. Skipped programs. -/

section
variable {settings : Settings} {s : State}

/-- A plain statement in a skipped block is passed over. -/
theorem Action.step_inactive (ha : s.active = false) (action : Action) (line : Nat) :
    s.step settings ⟨line, action.statement⟩ = s.ok := by
  rw [State.step_of_inactive settings ha]
  cases action <;> rfl

/-- A condition is not evaluated in a skipped block, nor after one of its chain that
held; the next block is skipped. -/
theorem step_condition_skipped {link : Link}
    (hs : s.active = false ∨ link = .following ∧ s.frames.top.chainHeld = true) (line : Nat)
    (c : Condition) :
    s.step settings ⟨line, c.statement link⟩ = (s.mapTop .skipNext).ok := by
  by_cases ha : s.active = true
  · rcases hs with hs | ⟨rfl, hheld⟩
    · rw [hs] at ha
      cases ha
    · show s.condition settings .following c.left c.operator c.right = _
      unfold State.condition
      rw [ha]
      show (if s.frames.top.chainHeld then _ else _ : Outcome) = _
      rw [if_pos hheld]
  · rw [Bool.not_eq_true] at ha
    rw [State.step_of_inactive settings ha]
    rfl

/-- After a branch that was taken the last block is skipped too. -/
theorem active_push_otherwise {frames : Frames}
    (h : frames.active = false ∨ frames.top.chainHeld = true) :
    (frames.mapTop .otherwise).push.active = false ∧
      (frames.mapTop .otherwise).active = frames.active := by
  obtain ⟨⟨active, nextRuns, chainHeld⟩, below⟩ := frames
  cases active with
  | false => exact ⟨rfl, rfl⟩
  | true =>
      rcases h with h | h
      · cases h
      · cases h
        exact ⟨rfl, rfl⟩

end

variable {settings : Settings}

mutual

/-- **A program in a skipped block has no effect.** -/
theorem Program.passes : (p : Program) → {s : State} → s.active = false →
    Performs settings s p.flat (pure ())
      (fun frames => frames.active = false ∧ frames.below = s.frames.below)
  | .done, _, ha => Performs.nil ⟨ha, rfl⟩
  | .action line action rest, s, ha => by
      have hpass : Performs settings s [⟨line, action.statement⟩] (pure ()) (· = s.frames) :=
        Performs.step (action.step_inactive ha line) rfl rfl
      refine hpass.pass_append fun s' hs' => ?_
      have hrest := rest.passes ((State.active_eq hs').trans ha)
      rwa [hs'] at hrest
  | .block block rest, s, ha => by
      -- The flag may tell a bare block to run, but not on top of an inactive frame.
      have hpush : s.frames.push.active = false := by
        rw [Frames.active_push, show s.frames.active = false from ha, Bool.false_and]
      refine (block.passes hpush).pass_append fun s' hs' => ?_
      have hrest := rest.passes ((State.active_eq hs').trans ha)
      rwa [hs'] at hrest
  | .chain line condition block others rest, s, ha => by
      have hpass : Performs settings s [⟨line, condition.statement .opening⟩] (pure ())
          (· = s.frames.mapTop .skipNext) :=
        Performs.step (step_condition_skipped (.inl ha) line condition) rfl rfl
      -- Three parts one after the other: first block, further branches, the rest.
      refine hpass.pass_append fun s₁ h₁ => ?_
      have hpush : s₁.frames.push.active = false := by
        rw [h₁, Frames.active_push]
        exact Bool.and_false _
      refine (block.passes hpush).pass_append fun s₂ h₂ => ?_
      have ha₂ : s₂.active = false := (State.active_eq (h₂.trans h₁)).trans ha
      refine (others.passes (.inl ha₂)).pass_append fun s₃ ⟨ha₃, hbelow₃⟩ => ?_
      have hbelow : s₃.frames.below = s.frames.below := by
        rw [hbelow₃, h₂, h₁]
        rfl
      exact (rest.passes (ha₃.trans ha₂)).mono fun _ h => ⟨h.1, h.2.trans hbelow⟩

/-- A block that does not run has no effect. -/
theorem Block.passes : (b : Block) → {s : State} → s.frames.push.active = false →
    Performs settings s b.flat (pure ()) (· = s.frames)
  | .braces _ body _, s, hp => by
      refine Performs.braces fun s' hs' => ?_
      have ha' : s'.active = false := (State.active_eq hs').trans hp
      exact (body.passes ha').mono fun _ h => h.2

/-- Branches after one that was taken, or in a skipped block, have no effect. -/
theorem Branches.passes : (b : Branches) → {s : State} →
    s.active = false ∨ s.frames.top.chainHeld = true →
    Performs settings s b.flat (pure ())
      (fun frames => frames.active = s.active ∧ frames.below = s.frames.below)
  | .none, _, _ => Performs.nil ⟨rfl, rfl⟩
  | .otherwise line block, s, hs => by
      -- The last block has no condition, so it is skipped for what came before it.
      obtain ⟨hpush, hactive⟩ := active_push_otherwise hs
      have hpass : Performs settings s [⟨line, .otherwise⟩] (pure ())
          (· = s.frames.mapTop .otherwise) :=
        Performs.step (t := s.mapTop .otherwise) rfl rfl rfl
      refine hpass.pass_append fun s₁ h₁ => ?_
      refine (block.passes (s := s₁) (by rw [h₁]; exact hpush)).mono fun frames hf => ?_
      rw [hf, h₁]
      exact ⟨hactive, rfl⟩
  | .following line condition block others, s, hs => by
      have hpass : Performs settings s [⟨line, condition.statement .following⟩] (pure ())
          (· = s.frames.mapTop .skipNext) :=
        Performs.step (step_condition_skipped (hs.imp_right fun h => ⟨rfl, h⟩) line condition)
          rfl rfl
      refine hpass.pass_append fun s₁ h₁ => ?_
      have hpush : s₁.frames.push.active = false := by
        rw [h₁, Frames.active_push]
        exact Bool.and_false _
      refine (block.passes hpush).pass_append fun s₂ h₂ => ?_
      -- Skipping leaves the flags that say that the chain is over.
      have hframes : s₂.frames = s.frames.mapTop .skipNext := h₂.trans h₁
      have hover : s₂.active = false ∨ s₂.frames.top.chainHeld = true := by
        show s₂.frames.active = false ∨ s₂.frames.top.chainHeld = true
        rw [hframes]
        exact hs
      refine (others.passes hover).mono fun frames ⟨ha, hbelow⟩ => ?_
      rw [ha, hbelow]
      show s₂.frames.active = s.active ∧ _
      rw [hframes]
      exact ⟨rfl, rfl⟩

end

/-! ## §3. Programs that run. -/

mutual

/-- **A program in a block that runs has its effect.** -/
theorem Program.performs : (p : Program) → p.wellFormed = true → {s : State} →
    s.active = true → (p.startsWithBlock = true → s.frames.top.nextRuns = true) →
    Performs settings s p.flat (p.eval settings)
      (fun frames => frames.active = true ∧ frames.below = s.frames.below)
  | .done, _, _, ha, _ => Performs.nil ⟨ha, rfl⟩
  | .action line action rest, hw, s, ha, _ => by
      rw [Program.wellFormed, Bool.and_eq_true] at hw
      refine (action.performs ha line).append fun s' hs' => ?_
      have hrest := rest.performs hw.2 ((State.active_eq hs').trans ha)
        (fun _ => by rw [hs']; rfl)
      rwa [hs'] at hrest
  | .block block rest, hw, s, ha, hn => by
      rw [Program.wellFormed, Bool.and_eq_true] at hw
      refine (block.performs hw.1 ha (hn rfl)).append fun s' hs' => ?_
      have hrest := rest.performs hw.2 ((State.active_eq hs').trans ha)
        (fun _ => by rw [hs']; exact hn rfl)
      rwa [hs'] at hrest
  | .chain line condition block others rest, hw, s, ha, _ => by
      simp only [Program.wellFormed, Bool.and_eq_true, Bool.not_eq_true'] at hw
      obtain ⟨⟨⟨hblock, hothers⟩, hstart⟩, hrest⟩ := hw
      -- No bare block follows, so the flag that the chain leaves for one is never read.
      have hafter : ∀ s' : State, s'.frames.active = true ∧ s'.frames.below = s.frames.below →
          Performs settings s' rest.flat (rest.eval settings)
            (fun frames => frames.active = true ∧ frames.below = s.frames.below) := by
        intro s' ⟨ha', hbelow⟩
        have hperforms := rest.performs hrest ha' (fun h => by rw [hstart] at h; cases h)
        rwa [hbelow] at hperforms
      show Performs settings s _ (condition.eval settings line .opening >>= fun result => _) _
      refine Performs.branch ha (fun h => by cases h) fun result => ?_
      cases result with
      | true =>
          -- The first block is taken, and all further branches are passed over.
          have hrun := block.performs hblock (s := { s with frames := decided s.frames true }) ha rfl
          refine hrun.append fun s₁ h₁ => ?_
          have hheld : s₁.frames.top.chainHeld = true := by rw [h₁]; rfl
          refine (others.passes (.inr hheld)).pass_append fun s₂ ⟨ha₂, hbelow₂⟩ => ?_
          have ha₁ : s₁.active = true := (State.active_eq h₁).trans ha
          refine hafter s₂ ⟨ha₂.trans ha₁, hbelow₂.trans ?_⟩
          rw [h₁]
          rfl
      | false =>
          -- The first block is passed over, and the chain is still open.
          refine (block.passes (by rw [Frames.active_push]; exact Bool.and_false _)).pass_append
            fun s₁ h₁ => ?_
          have ha₁ : s₁.active = true := (State.active_eq h₁).trans ha
          refine (others.performs hothers ha₁ (by rw [h₁]; rfl)).append fun s₂ ⟨ha₂, hbelow₂⟩ => ?_
          refine hafter s₂ ⟨ha₂, hbelow₂.trans ?_⟩
          rw [h₁]
          rfl

/-- A block that runs has the effect of its body. -/
theorem Block.performs : (b : Block) → b.wellFormed = true → {s : State} →
    s.active = true → s.frames.top.nextRuns = true →
    Performs settings s b.flat (b.eval settings) (· = s.frames)
  | .braces _ body _, hw, s, ha, hn => by
      refine Performs.braces fun s' hs' => ?_
      have hactive : s'.active = true := by
        rw [State.active_eq hs', Frames.active_push, hn, Bool.and_true]
        exact ha
      exact (body.performs hw hactive fun _ => by rw [hs']; rfl).mono fun _ h => h.2

/-- Branches of which none was taken so far have the effect of the one that is. -/
theorem Branches.performs : (b : Branches) → b.wellFormed = true → {s : State} →
    s.active = true → s.frames.top.chainHeld = false →
    Performs settings s b.flat (b.eval settings)
      (fun frames => frames.active = true ∧ frames.below = s.frames.below)
  | .none, _, _, ha, _ => Performs.nil ⟨ha, rfl⟩
  | .otherwise line block, hw, s, ha, hheld => by
      -- No condition has held, so the last block runs.
      have hframes : (s.mapTop .otherwise).frames.top.nextRuns = true ∧
          (s.mapTop .otherwise).active = true := by
        show (s.frames.top.otherwise).nextRuns = true ∧ (s.frames.top.otherwise).active = true
        unfold Frame.otherwise
        rw [if_pos (show s.frames.top.active = true from ha), hheld]
        exact ⟨rfl, ha⟩
      have hpass : Performs settings s [⟨line, .otherwise⟩] (pure ())
          (· = (s.mapTop .otherwise).frames) :=
        Performs.step (t := s.mapTop .otherwise) rfl rfl rfl
      refine hpass.pass_append fun s₁ h₁ => ?_
      have ha₁ : s₁.active = true := (State.active_eq h₁).trans hframes.2
      refine (block.performs hw ha₁ (by rw [h₁]; exact hframes.1)).mono fun frames hf => ?_
      rw [hf]
      exact ⟨ha₁, by rw [h₁]; rfl⟩
  | .following line condition block others, hw, s, ha, hheld => by
      rw [Branches.wellFormed, Bool.and_eq_true] at hw
      show Performs settings s _ (condition.eval settings line .following >>= fun result => _) _
      refine Performs.branch ha (fun _ => hheld) fun result => ?_
      cases result with
      | true =>
          -- This branch is taken, and those after it find the chain over.
          have hrun := block.performs hw.1 (s := { s with frames := decided s.frames true }) ha rfl
          refine hrun.append_pass fun s₁ h₁ => ?_
          have hover : s₁.frames.top.chainHeld = true := by rw [h₁]; rfl
          have ha₁ : s₁.active = true := (State.active_eq h₁).trans ha
          refine (others.passes (.inr hover)).mono fun frames ⟨ha₂, hbelow⟩ => ⟨ha₂.trans ha₁, ?_⟩
          rw [hbelow, h₁]
          rfl
      | false =>
          -- This branch is passed over, and the search goes on.
          refine (block.passes (by rw [Frames.active_push]; exact Bool.and_false _)).pass_append
            fun s₁ h₁ => ?_
          have ha₁ : s₁.active = true := (State.active_eq h₁).trans ha
          refine (others.performs hw.2 ha₁ (by rw [h₁]; rfl)).mono fun frames ⟨ha₂, hbelow⟩ => ?_
          exact ⟨ha₂, by rw [hbelow, h₁]; rfl⟩

end

end RuleScript.Structured
