/-
  RuleScript.Proofs.Run.Frames
  ────────────────────────────
  **Statements and the frames they run on.**

  Every statement opens a block, closes one, or changes the innermost frame
  without a change of whether it is active.  So an inactive frame can only be
  left by closing it, and what is opened on top of it is inactive as well.

  Main results:
    • `State.frames_step` — what one statement does to the frames.
    • `Frames.SkipsOver.step` — a skipped block stays skipped until it is closed.
    • `Frames.Grounded.step` — the script itself always takes effect.
-/
import RuleScript.Run.Machine

namespace RuleScript

open Script (Located Statement)

/-! ## §1. One statement and the frames. -/

/-- The innermost frame may have changed, but it is as active as it was. -/
def Frames.Retouched (before after : Frames) : Prop :=
  ∃ f : Frame → Frame, (∀ frame, (f frame).active = frame.active) ∧ after = before.mapTop f

theorem Frames.Retouched.refl (frames : Frames) : frames.Retouched frames :=
  ⟨id, fun _ => rfl, rfl⟩

theorem Frames.Retouched.trans {a b c : Frames} (h : a.Retouched b) (h' : b.Retouched c) :
    a.Retouched c := by
  obtain ⟨f, hf, rfl⟩ := h
  obtain ⟨g, hg, rfl⟩ := h'
  exact ⟨g ∘ f, fun frame => (hg _).trans (hf _), rfl⟩

namespace State

variable {settings : Settings} {s : State} {item : Located}

theorem active_eq {frames : Frames} (h : s.frames = frames) : s.active = frames.active :=
  congrArg Frames.active h

theorem retouched_whereActive {run : State → Outcome}
    (h : ∀ s, (run s).state.frames = s.frames) :
    s.frames.Retouched (s.whereActive run).state.frames := by
  unfold whereActive
  split
  · rw [h]
    exact ⟨.runNext, fun _ => rfl, rfl⟩
  · exact .refl _

theorem frames_assign (s : State) (path word : String) :
    (s.assign path word).state.frames = s.frames := by
  unfold assign
  split <;> rfl

theorem frames_unset (s : State) (path : String) :
    (s.unset path).state.frames = s.frames :=
  rfl

theorem frames_replace (settings : Settings) (s : State) (path pattern replacement : String) :
    (s.replace settings path pattern replacement).state.frames = s.frames := by
  unfold replace
  split <;> rfl

theorem retouched_change (settings : Settings) (target : String) (step : Script.Change) :
    s.frames.Retouched (s.change settings target step).state.frames := by
  unfold change
  by_cases hk : (!s.knows target && s.active) = true
  · rw [if_pos hk]
    exact .refl _
  rw [if_neg hk]
  cases step with
  | assign value => exact retouched_whereActive (frames_assign · target value)
  | unset => exact retouched_whereActive (frames_unset · target)
  | replace pattern replacement =>
      exact retouched_whereActive (frames_replace settings · target pattern replacement)
  | incomplete missing => exact .refl _
  | unknown operator =>
      show s.frames.Retouched (if s.knows target = true then _ else _ : Outcome).state.frames
      split <;> exact .refl _

theorem retouched_evaluate (settings : Settings) (keyword left operator right : String) :
    s.frames.Retouched (s.evaluate settings keyword left operator right).state.frames := by
  unfold evaluate
  split
  · next result _ => exact ⟨(·.decided result), fun _ => rfl, rfl⟩
  · exact .refl _

theorem retouched_condition (settings : Settings) (link : Script.Link)
    (left operator right : String) :
    s.frames.Retouched (s.condition settings link left operator right).state.frames := by
  have hskip : s.frames.Retouched (s.mapTop .skipNext).frames := ⟨.skipNext, fun _ => rfl, rfl⟩
  unfold condition
  split
  · exact hskip
  cases link with
  | opening =>
      have hstart : s.frames.Retouched (s.mapTop .startChain).frames :=
        ⟨.startChain, fun _ => rfl, rfl⟩
      exact hstart.trans (retouched_evaluate settings _ _ _ _)
  | following =>
      show s.frames.Retouched (if s.frames.top.chainHeld = true then _ else _ : Outcome).state.frames
      split
      · exact hskip
      · exact retouched_evaluate settings _ _ _ _

/-- **A statement opens a block, closes one, or retouches the innermost frame.** -/
theorem frames_step (settings : Settings) (s : State) (item : Located) :
    (item.statement = .openBlock ∧ (s.step settings item).state.frames = s.frames.push) ∨
    (item.statement = .closeBlock ∧
      s.frames.pop? = some (s.step settings item).state.frames) ∨
    (item.statement ≠ .openBlock ∧
      (item.statement = .closeBlock → (s.step settings item).fault ≠ none) ∧
      s.frames.Retouched (s.step settings item).state.frames) := by
  obtain ⟨line, statement⟩ := item
  cases statement with
  | openBlock => exact .inl ⟨rfl, rfl⟩
  | closeBlock =>
      cases hp : s.frames.pop? with
      | some frames =>
          rw [step_close hp]
          exact .inr (.inl ⟨rfl, rfl⟩)
      | none =>
          rw [step_unmatched hp]
          exact .inr (.inr ⟨nofun, fun _ => nofun, .refl _⟩)
  -- All others keep the stack, and move flags that are not read before a block opens.
  | blank => exact .inr (.inr ⟨nofun, nofun, .refl _⟩)
  | incomplete keyword missing => exact .inr (.inr ⟨nofun, nofun, .refl _⟩)
  | condition link left operator right =>
      exact .inr (.inr ⟨nofun, nofun, retouched_condition settings link left operator right⟩)
  | otherwise =>
      refine .inr (.inr ⟨nofun, nofun, .otherwise, fun frame => ?_, rfl⟩)
      unfold Frame.otherwise
      split <;> rfl
  | declare name value =>
      refine .inr (.inr ⟨nofun, nofun, ?_⟩)
      show s.frames.Retouched (s.declare name value).state.frames
      rw [declare_eq_whereActive]
      refine retouched_whereActive fun s => ?_
      split <;> rfl
  | log message =>
      refine .inr (.inr ⟨nofun, nofun, ?_⟩)
      show s.frames.Retouched (s.logEntry settings line message).state.frames
      rw [logEntry_eq_whereActive]
      refine retouched_whereActive fun s => ?_
      split <;> rfl
  | change target step => exact .inr (.inr ⟨nofun, nofun, retouched_change settings target step⟩)

end State

/-! ## §2. The frames above a skipped block. -/

namespace Frames

/-- The frames above `below` are all inactive, and there is at least one. -/
def SkipsOver (below : List Frame) (frames : Frames) : Prop :=
  ∃ inner, frames.below = inner ++ below ∧ ∀ frame ∈ frames.top :: inner, frame.active = false

variable {below : List Frame} {frames frames' : Frames}

theorem SkipsOver.active (h : frames.SkipsOver below) : frames.active = false := by
  obtain ⟨inner, -, hinactive⟩ := h
  exact hinactive frames.top List.mem_cons_self

theorem SkipsOver.of_inactive (h : frames.active = false) : frames.SkipsOver frames.below :=
  ⟨[], rfl, by simpa using (show frames.top.active = false from h)⟩

theorem SkipsOver.push (h : frames.SkipsOver below) : frames.push.SkipsOver below := by
  -- A new frame is as inactive as the one it stands on, whatever that one's flags are.
  have hactive : frames.push.active = false := by
    rw [active_push, h.active]
    rfl
  obtain ⟨inner, hbelow, hinactive⟩ := h
  refine ⟨frames.top :: inner, ?_, ?_⟩
  · show frames.top :: frames.below = _
    rw [hbelow]
    rfl
  · intro frame hmem
    rcases List.mem_cons.1 hmem with rfl | hmem
    · exact hactive
    · exact hinactive frame hmem

theorem SkipsOver.retouched (h : frames.SkipsOver below) (ht : frames.Retouched frames') :
    frames'.SkipsOver below := by
  obtain ⟨inner, hbelow, hinactive⟩ := h
  obtain ⟨f, hf, rfl⟩ := ht
  refine ⟨inner, hbelow, ?_⟩
  intro frame hmem
  rcases List.mem_cons.1 hmem with rfl | hmem
  · exact (hf frames.top).trans (hinactive _ List.mem_cons_self)
  · exact hinactive frame (List.mem_cons_of_mem _ hmem)

theorem below_of_pop? (hp : frames.pop? = some frames') :
    frames.below = frames'.top :: frames'.below := by
  obtain ⟨top, below⟩ := frames
  cases below with
  | nil => cases hp
  | cons frame below =>
      cases hp
      rfl

theorem eq_of_cons (h : frames.top :: frames.below = frames'.top :: frames'.below) :
    frames = frames' := by
  obtain ⟨top, below⟩ := frames
  obtain ⟨top', below'⟩ := frames'
  cases h
  rfl

theorem Retouched.below_eq (h : frames.Retouched frames') : frames'.below = frames.below := by
  obtain ⟨f, -, rfl⟩ := h
  rfl

/-- What is left when an inner block is closed is still skipped. -/
theorem SkipsOver.pop? (h : frames.SkipsOver below) (hp : frames.pop? = some frames')
    (hdeep : below.length ≤ frames'.depth) : frames'.SkipsOver below := by
  obtain ⟨inner, hbelow, hinactive⟩ := h
  rw [below_of_pop? hp] at hbelow
  cases inner with
  -- If the frame on top were the only skipped one, closing it would leave too few.
  | nil =>
      have hlen : frames'.depth + 1 = below.length := congrArg List.length hbelow
      omega
  | cons frame inner =>
      obtain ⟨htop, hrest⟩ := List.cons.inj hbelow
      refine ⟨inner, hrest, ?_⟩
      rw [htop]
      exact fun frame' hmem => hinactive frame' (List.mem_cons_of_mem _ hmem)

theorem SkipsOver.suffix (h : frames.SkipsOver below) : below <:+ frames.below := by
  obtain ⟨inner, hbelow, -⟩ := h
  exact ⟨inner, hbelow.symm⟩

/-- When the last block over `below` is closed, `below` is what is left. -/
theorem below_of_closed (hover : below <:+ frames.below) (hp : frames.pop? = some frames')
    (hclosed : frames'.depth < below.length) : frames'.top :: frames'.below = below := by
  rw [below_of_pop? hp] at hover
  rcases List.suffix_cons_iff.1 hover with h | h
  · exact h.symm
  · have hle : below.length ≤ frames'.depth := h.length_le
    omega

end Frames

/-- What happens in a skipped block keeps it skipped, until it is closed. -/
theorem Frames.SkipsOver.step {below : List Frame} {s : State}
    (h : s.frames.SkipsOver below) (settings : Settings) (item : Located)
    (hdeep : below.length ≤ (s.step settings item).state.frames.depth) :
    (s.step settings item).state.frames.SkipsOver below := by
  rcases s.frames_step settings item with ⟨-, hpush⟩ | ⟨-, hpop⟩ | ⟨-, -, htouch⟩
  · rw [hpush]
    exact h.push
  · exact h.pop? hpop hdeep
  · exact h.retouched htouch

/-! ## §3. The script itself takes effect. -/

/-- The outermost frame is active. -/
def Frames.Grounded (frames : Frames) : Prop :=
  (frames.top :: frames.below).getLast?.map Frame.active = some true

theorem Frames.Grounded.step {s : State} (h : s.frames.Grounded) (settings : Settings)
    (item : Located) : (s.step settings item).state.frames.Grounded := by
  rcases s.frames_step settings item with ⟨-, hpush⟩ | ⟨-, hpop⟩ | ⟨-, -, htouch⟩
  -- Opening and closing a block leave the outermost frame where it is.
  · rw [hpush]
    unfold Grounded Frames.push
    rw [List.getLast?_cons_cons]
    exact h
  · unfold Grounded at h
    rw [Frames.below_of_pop? hpop, List.getLast?_cons_cons] at h
    exact h
  · obtain ⟨f, hf, hframes⟩ := htouch
    rw [hframes]
    unfold Grounded Frames.mapTop at *
    cases hbelow : s.frames.below with
    | nil =>
        rw [hbelow] at h
        simpa [hf] using h
    | cons frame below =>
        rw [hbelow, List.getLast?_cons_cons] at h
        rw [List.getLast?_cons_cons]
        exact h

/-- Where statements are skipped, some block is open. -/
theorem Frames.Grounded.depth_ne_zero {frames : Frames} (h : frames.Grounded)
    (ha : frames.active = false) : frames.depth ≠ 0 := by
  intro hzero
  have hbelow : frames.below = [] := List.length_eq_zero_iff.1 hzero
  unfold Grounded at h
  rw [hbelow] at h
  have htop : frames.top.active = true := by simpa using h
  rw [show frames.top.active = false from ha] at htop
  cases htop

end RuleScript
