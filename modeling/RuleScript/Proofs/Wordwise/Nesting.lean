/-
  RuleScript.Proofs.Wordwise.Nesting
  ──────────────────────────────────
  **Open blocks and the braces read so far.**

  The frames of a run are one list, outermost frame first.  The first word of a statement
  says what happens to it: `{` puts a frame behind the last one, `}` takes the last one away,
  and anything else moves flags of the last one, without a change of whether it is active.
  So the list tells the braces that statements have started with, those that are operands do
  not count, and what stands in front of a block is the same when that block is closed.

  Main results:
    • `stack_of_goesOn` / `stack_of_stops` — what a turn does to the frames.
    • `Trail.depth_add_closes` — blocks that are open, by the braces so far.
    • `frames_along_run` — the frames in every state of every run.
-/
import Mathlib
import RuleScript.Proofs.Run.Faults
import RuleScript.Proofs.Wordwise.Skipping

namespace RuleScript

/-! ## §1. The frames as a list. -/

namespace Frames

/-- All frames, that of the script itself first and the innermost one last. -/
def stack (frames : Frames) : List Frame := frames.below.reverse ++ [frames.top]

theorem stack_push (frames : Frames) :
    frames.push.stack
      = frames.below.reverse ++ [frames.top, .new (frames.top.active && frames.top.nextRuns)] := by
  show (frames.top :: frames.below).reverse ++ _ = _
  rw [List.reverse_cons, List.append_assoc]
  rfl

theorem length_stack (frames : Frames) : frames.stack.length = frames.depth + 1 := by
  unfold stack depth
  rw [List.length_append, List.length_reverse, List.length_singleton]

/-- The last place of the list is one of its places, and has the innermost frame. -/
theorem getElem?_stack_last (frames : Frames) :
    frames.stack[frames.stack.length - 1]? = some frames.top := by
  rw [← List.getLast?_eq_getElem?]
  exact List.getLast?_concat

theorem stack_inj {a b : Frames} (h : a.stack = b.stack) : a = b := by
  obtain ⟨hbelow, htop⟩ := List.append_inj' h rfl
  obtain ⟨top, below⟩ := a
  obtain ⟨top', below'⟩ := b
  cases List.reverse_inj.1 hbelow
  cases htop
  rfl

theorem stack_of_pop? {frames frames' : Frames} (h : frames.pop? = some frames') :
    frames.stack = frames'.stack ++ [frames.top] := by
  unfold stack
  rw [below_of_pop? h, List.reverse_cons]

/-- The script itself takes effect just if the first frame is active. -/
theorem grounded_iff {frames : Frames} :
    frames.Grounded ↔ frames.stack.head?.map Frame.active = some true := by
  unfold Grounded stack
  rw [← List.reverse_cons, List.head?_reverse]

end Frames

/-! ## §2. What the first word of a statement does to the list. -/

/-- The last frame may have other flags; it is as active as it was. -/
inductive Stays : List Frame → List Frame → Prop
  | last (outer : List Frame) {top top' : Frame} (active : top'.active = top.active) :
      Stays (outer ++ [top]) (outer ++ [top'])

theorem Stays.length_eq {s s' : List Frame} (h : Stays s s') : s'.length = s.length := by
  cases h with
  | last outer active => simp

theorem Stays.head?_active {s s' : List Frame} (h : Stays s s') :
    s'.head?.map Frame.active = s.head?.map Frame.active := by
  cases h with
  | last outer active =>
      cases outer with
      | nil => exact congrArg some active
      | cons frame outer => rfl

/-- What a statement that starts with the word `head` does to the frames.  A block that is
opened is active if the one around it is and lets it run. -/
inductive StackStep : (head : String) → List Frame → List Frame → Prop
  | opens (outer : List Frame) (top : Frame) :
      StackStep "\x7b" (outer ++ [top]) (outer ++ [top, .new (top.active && top.nextRuns)])
  | closes (outer : List Frame) (top : Frame) (some_left : outer ≠ []) :
      StackStep "\x7d" (outer ++ [top]) outer
  | stays {head : String} {stack stack' : List Frame} (not_open : head ≠ "\x7b")
      (not_close : head ≠ "\x7d") (same : Stays stack stack') : StackStep head stack stack'

/-- An active frame has only active frames around it. -/
def Covered (stack : List Frame) : Prop :=
  stack.Pairwise fun outer inner => inner.active = true → outer.active = true

theorem covered_concat {outer : List Frame} {top : Frame} :
    Covered (outer ++ [top]) ↔
      Covered outer ∧ (top.active = true → ∀ frame ∈ outer, frame.active = true) := by
  unfold Covered
  rw [List.pairwise_append]
  constructor
  · rintro ⟨houter, -, hcross⟩
    exact ⟨houter, fun htop frame hmem => hcross frame hmem top List.mem_cons_self htop⟩
  · intro ⟨houter, htop⟩
    refine ⟨houter, List.pairwise_singleton _ _, fun frame hmem inner hinner hactive => ?_⟩
    cases List.mem_singleton.1 hinner
    exact htop hactive frame hmem

theorem Covered.stays {s s' : List Frame} (h : Covered s) (hstays : Stays s s') : Covered s' := by
  cases hstays with
  | last outer active =>
      rw [covered_concat] at h ⊢
      rw [active]
      exact h

namespace StackStep

variable {head : String} {s s' : List Frame}

theorem covered (h : StackStep head s s') (hcovered : Covered s) : Covered s' := by
  cases h with
  | stays not_open not_close same => exact hcovered.stays same
  | closes outer top some_left => exact (covered_concat.1 hcovered).1
  | opens outer top =>
      obtain ⟨houter, htop⟩ := covered_concat.1 hcovered
      rw [List.append_cons, covered_concat]
      refine ⟨hcovered, fun hactive frame hmem => ?_⟩
      -- The new frame is active only if the one it stands on is, and that one is covered.
      have hlast : top.active = true := (Bool.and_eq_true_iff.1 hactive).1
      rcases List.mem_append.1 hmem with hmem | hmem
      · exact htop hlast frame hmem
      · cases List.mem_singleton.1 hmem
        exact hlast

theorem opened (h : StackStep head s s') (hhead : head = "\x7b") : ∃ frame, s' = s ++ [frame] := by
  cases h with
  | opens outer top => exact ⟨_, List.append_cons _ _ _⟩
  | closes outer top some_left => exact absurd hhead (by decide)
  | stays not_open not_close same => exact absurd hhead not_open

/-- Whatever a statement does, it leaves all frames but the last one. -/
theorem dropLast_kept (h : StackStep head s s') : s.dropLast <+: s' := by
  cases h with
  | opens outer top => exact List.dropLast_concat ▸ List.prefix_append _ _
  | closes outer top some_left => exact List.dropLast_concat ▸ List.prefix_refl _
  | stays not_open not_close same =>
      cases same with
      | last outer active => exact List.dropLast_concat ▸ List.prefix_append _ _

theorem keeps_front {outer : List Frame} (h : StackStep head s s') (hs : outer <+: s)
    (hlen : outer.length < s.length) : outer <+: s' := by
  have hdrop : outer <+: s.dropLast := by
    rw [List.dropLast_eq_take, List.prefix_take_iff]
    exact ⟨hs, by omega⟩
  exact hdrop.trans h.dropLast_kept

/-- How many frames there are changes with braces, and with nothing else. -/
theorem length_add (h : StackStep head s s') :
    s'.length + (if head = "\x7d" then 1 else 0) = s.length + (if head = "\x7b" then 1 else 0) := by
  cases h with
  | opens outer top => simp
  | closes outer top some_left => simp
  | stays not_open not_close same =>
      rw [if_neg not_open, if_neg not_close, same.length_eq]

end StackStep

/-! ## §3. Turns. -/

theorem Frames.Retouched.stays {frames frames' : Frames} (h : frames.Retouched frames') :
    Stays frames.stack frames'.stack := by
  obtain ⟨f, hf, rfl⟩ := h
  exact .last _ (hf _)

/-- **A statement that goes on does to the frames what its first word says.** -/
theorem State.stack_step {settings : Settings} {s : State} {line : Nat} {head : String}
    {words : List Script.Word}
    (hok : (s.step settings ⟨line, (Script.readStatement head words).1⟩).fault = none) :
    StackStep head s.frames.stack
      (s.step settings ⟨line, (Script.readStatement head words).1⟩).state.frames.stack := by
  have hhead := Script.head?_words_readStatement head words
  rcases s.frames_step settings ⟨line, (Script.readStatement head words).1⟩ with
    ⟨hitem, hpush⟩ | ⟨hitem, hpop⟩ | ⟨hopen, hclose, htouch⟩
  · rw [show (Script.readStatement head words).1 = .openBlock from hitem] at hhead
    cases hhead
    rw [hpush, Frames.stack_push]
    exact .opens _ _
  · rw [show (Script.readStatement head words).1 = .closeBlock from hitem] at hhead
    cases hhead
    rw [Frames.stack_of_pop? hpop]
    exact .closes _ _ (List.append_ne_nil_of_right_ne_nil _ (List.cons_ne_nil _ _))
  · refine .stays ?_ ?_ htouch.stays
    · rintro rfl
      exact hopen rfl
    · rintro rfl
      exact hclose rfl hok

/-- **A statement that fails** leaves the blocks open that were open before it. -/
theorem State.stays_of_fault {settings : Settings} {s s' : State} {item : Script.Located}
    {fault : Fault} (hstep : s.step settings item = ⟨s', some fault⟩) :
    Stays s.frames.stack s'.frames.stack := by
  obtain ⟨line, statement⟩ := item
  have hstate : (s.step settings ⟨line, statement⟩).state = s' := by rw [hstep]
  rcases s.frames_step settings ⟨line, statement⟩ with ⟨hitem, -⟩ | ⟨hitem, hpop⟩ | ⟨-, -, htouch⟩
  · cases (show statement = .openBlock from hitem)
    cases hstep
  · cases (show statement = .closeBlock from hitem)
    rw [State.step_close hpop] at hstep
    cases hstep
  · exact hstate ▸ htouch.stays

namespace Wordwise

open Script (Word)

variable {settings : Settings}

theorem stack_of_goesOn {m m' : Machine} (h : m.turn settings = .goesOn m') :
    ∃ word cursor, m.cursor.next? = some (word, cursor) ∧
      StackStep word.text m.state.frames.stack m'.state.frames.stack := by
  obtain ⟨word, c, hnext, hok, hstate, -, -⟩ := goesOn_cases h
  rw [hstate]
  exact ⟨word, c, hnext, State.stack_step hok⟩

theorem stack_of_stops {m final : Machine} {error : Option ScriptError}
    (h : m.turn settings = .stops final error) :
    Stays m.state.frames.stack final.state.frames.stack := by
  rcases stops_cases h with ⟨-, rfl, -⟩ | ⟨word, c, fault, -, hstep, -, -⟩
  · exact .last _ rfl
  · exact State.stays_of_fault hstep

/-! ## §4. Braces so far. -/

/-- Any number of turns, and the words that their statements start with. -/
inductive Trail (settings : Settings) : Machine → List Word → Machine → Prop
  | here {m : Machine} : Trail settings m [] m
  | turn {m m₁ m₂ : Machine} {word : Word} {cursor : Script.Cursor} {words : List Word}
      (head : m.cursor.next? = some (word, cursor)) (first : m.turn settings = .goesOn m₁)
      (rest : Trail settings m₁ words m₂) : Trail settings m (word :: words) m₂

/-- How many of the words open a block. -/
def opens (words : List Word) : Nat := words.countP (·.text = "\x7b")

/-- How many of the words close a block. -/
def closes (words : List Word) : Nat := words.countP (·.text = "\x7d")

/-- A trail is left by every run. -/
theorem reaches_iff_trail {m m' : Machine} :
    Reaches settings m m' ↔ ∃ words, Trail settings m words m' := by
  constructor
  · intro h
    induction h with
    | here => exact ⟨[], .here⟩
    | turn first deep rest ih =>
        obtain ⟨words, htrail⟩ := ih
        obtain ⟨word, c, hnext, -⟩ := goesOn_cases first
        exact ⟨word :: words, .turn hnext first htrail⟩
  · rintro ⟨words, h⟩
    induction h with
    | here => exact .here
    | turn head first rest ih => exact .turn first (Nat.zero_le _) ih

namespace Trail

variable {m m' : Machine} {words : List Word}

/-- The first turns of a run are a run. -/
theorem upTo {done : List Word} (h : Trail settings m words m') (hdone : done <+: words) :
    ∃ m₁, Trail settings m done m₁ := by
  induction h generalizing done with
  | here =>
      cases List.prefix_nil.1 hdone
      exact ⟨_, .here⟩
  | turn head first rest ih =>
      cases done with
      | nil => exact ⟨_, .here⟩
      | cons word done =>
          obtain ⟨rfl, hrest⟩ := List.cons_prefix_cons.1 hdone
          obtain ⟨m₁, htrail⟩ := ih hrest
          exact ⟨m₁, .turn head first htrail⟩

/-- **Every brace that starts a statement counts**, and no other. -/
theorem depth_add_closes (h : Trail settings m words m') :
    m'.state.frames.depth + closes words = m.state.frames.depth + opens words := by
  induction h with
  | here => rfl
  | @turn m m₁ m₂ word cursor words head first rest ih =>
      obtain ⟨word', c, hnext, hstep⟩ := stack_of_goesOn first
      cases head.symm.trans hnext
      have hlength := hstep.length_add
      rw [Frames.length_stack, Frames.length_stack] at hlength
      unfold opens closes at *
      rw [List.countP_cons, List.countP_cons]
      simp only [decide_eq_true_eq]
      omega

theorem covered (h : Trail settings m words m') (hcovered : Covered m.state.frames.stack) :
    Covered m'.state.frames.stack := by
  induction h with
  | here => exact hcovered
  | turn head first rest ih =>
      obtain ⟨word, c, -, hstep⟩ := stack_of_goesOn first
      exact ih (hstep.covered hcovered)

end Trail

/-! ## §5. Blocks inside. -/

/-- A block that has just been opened has one frame more. -/
theorem length_of_opened {m next : Machine} {word : Word} {cursor : Script.Cursor}
    (hhead : m.cursor.next? = some (word, cursor)) (hword : word.text = "\x7b")
    (hturn : m.turn settings = .goesOn next) :
    m.state.frames.stack <+: next.state.frames.stack ∧
      next.state.frames.stack.length = m.state.frames.stack.length + 1 := by
  obtain ⟨word', c, hnext, hstep⟩ := stack_of_goesOn hturn
  cases hhead.symm.trans hnext
  obtain ⟨frame, hopened⟩ := hstep.opened hword
  rw [hopened, List.length_append, List.length_singleton]
  exact ⟨List.prefix_append _ _, rfl⟩

/-- While a block is open, the frames that it was opened on are kept. -/
theorem front_of_within {outer : List Frame} {depth : Nat} {m inner : Machine}
    (hwithin : Within settings depth m inner) (houter : outer <+: m.state.frames.stack)
    (hlen : outer.length < m.state.frames.stack.length) (hdepth : outer.length ≤ depth) :
    outer <+: inner.state.frames.stack ∧ outer.length < inner.state.frames.stack.length := by
  refine hwithin.invariant
    (P := fun m => outer <+: m.state.frames.stack ∧ outer.length < m.state.frames.stack.length)
    ?_ ⟨houter, hlen⟩
  intro m m' ⟨hfront, hlonger⟩ hturn hdeep
  -- A turn leaves all frames but the last one, and there is one behind those of `outer`.
  obtain ⟨word, c, -, hstep⟩ := stack_of_goesOn hturn
  rw [Frames.length_stack m'.state.frames]
  exact ⟨hstep.keeps_front hfront hlonger, by omega⟩

/-- The frames around a block are what they were, as long as it is open and when it has been
closed. -/
def Nests (settings : Settings) (m next : Machine) : Prop :=
  (∀ inner, Within settings next.state.frames.depth next inner →
    m.state.frames.stack <+: inner.state.frames.stack) ∧
  ∀ closed, Closes settings next closed → closed.state.frames = m.state.frames

theorem nests_of_opened {m next : Machine} {word : Word} {cursor : Script.Cursor}
    (hhead : m.cursor.next? = some (word, cursor)) (hword : word.text = "\x7b")
    (hturn : m.turn settings = .goesOn next) : Nests settings m next := by
  obtain ⟨hfront, hlen⟩ := length_of_opened hhead hword hturn
  have hdepth : next.state.frames.depth = m.state.frames.stack.length := by
    rw [Frames.length_stack] at hlen
    omega
  have hinner {inner : Machine} (hwithin : Within settings next.state.frames.depth next inner) :=
    front_of_within hwithin hfront (by omega) (Nat.le_of_eq hdepth.symm)
  refine ⟨fun inner hwithin => (hinner hwithin).1, ?_⟩
  rintro closed ⟨last, hwithin, hlast, hshallow⟩
  obtain ⟨word', c, -, hstep⟩ := stack_of_goesOn hlast
  have hkept := hstep.keeps_front (hinner hwithin).1 (hinner hwithin).2
  -- The frames around the block are kept, and the last turn leaves no more than those.
  have hall : closed.state.frames.stack.length ≤ m.state.frames.stack.length := by
    rw [Frames.length_stack]
    omega
  exact Frames.stack_inj (hkept.eq_of_length_le hall).symm

/-! ## §6. Every run. -/

/-- The frames of a run whose statements so far start with `words`: there is a last one, which
is the innermost, the first one is active, all around an active one are, and behind the first
there is one for each brace that has opened a block and none that has closed it. -/
structure Framed (words : List Word) (frames : Frames) : Prop where
  last : frames.stack[frames.stack.length - 1]? = some frames.top
  length : frames.stack.length = frames.depth + 1
  outermost : frames.stack.head?.map Frame.active = some true
  covered : Covered frames.stack
  depth : frames.depth + closes words = opens words

theorem Trail.grounded {m m' : Machine} {words : List Word} (h : Trail settings m words m')
    (hground : m.state.frames.Grounded) : m'.state.frames.Grounded :=
  (reaches_iff_trail.2 ⟨words, h⟩).invariant (P := fun m => m.state.frames.Grounded)
    (fun _ _ h hturn _ => grounded_turn h hturn) hground

theorem Trail.framed {env : Environment} {script : List UInt8} {words : List Word} {m : Machine}
    (h : Trail settings (.start env script) words m) : Framed words m.state.frames where
  last := m.state.frames.getElem?_stack_last
  length := m.state.frames.length_stack
  outermost := Frames.grounded_iff.1 (h.grounded rfl)
  covered := h.covered (List.pairwise_singleton _ _)
  depth := h.depth_add_closes.trans (Nat.zero_add _)

/-- Flags of the innermost frame have no part in any of this. -/
theorem Framed.stays {words : List Word} {frames frames' : Frames} (h : Framed words frames)
    (hstays : Stays frames.stack frames'.stack) : Framed words frames' where
  last := frames'.getElem?_stack_last
  length := frames'.length_stack
  outermost := by
    rw [hstays.head?_active]
    exact h.outermost
  covered := h.covered.stays hstays
  depth := by
    have hlen := hstays.length_eq
    rw [Frames.length_stack, Frames.length_stack] at hlen
    have hdepth := h.depth
    omega

theorem Trail.closes_le_opens {env : Environment} {script : List UInt8} {words done : List Word}
    {m : Machine} (h : Trail settings (.start env script) words m) (hdone : done <+: words) :
    closes done ≤ opens done := by
  obtain ⟨m₁, htrail⟩ := h.upTo hdone
  have hdepth := htrail.framed.depth
  omega

/-- **The frames along a run.**  Every state that a run reaches, it reaches by statements with
some first words; and then there is an innermost frame, the outermost one is active, an active
one has active ones around it, and as many blocks are open as braces among those words have
opened and not closed, which at no time have closed more than they had opened.  A turn
moves flags of the innermost frame, opens a block or closes one, as its first word says; what
is around a block is found as it was when that block is closed; and a turn that stops leaves the
blocks as they are.  So a run succeeds only if all words are taken and as many braces have
opened blocks as have closed them. -/
theorem frames_along_run (settings : Settings) (env : Environment) (script : List UInt8) :
    (∀ m, Reaches settings (.start env script) m →
      ∃ words, Trail settings (.start env script) words m) ∧
    (∀ words m, Trail settings (.start env script) words m →
      Framed words m.state.frames ∧
      (∀ done, done <+: words → closes done ≤ opens done) ∧
      (∀ next, m.turn settings = .goesOn next →
        ∃ word cursor, m.cursor.next? = some (word, cursor) ∧
          StackStep word.text m.state.frames.stack next.state.frames.stack ∧
          (word.text = "\x7b" → Nests settings m next)) ∧
      (∀ final error, m.turn settings = .stops final error →
        Stays m.state.frames.stack final.state.frames.stack ∧ Framed words final.state.frames)) ∧
    ((run settings env script).error = none →
      ∃ words m, Trail settings (.start env script) words m ∧ m.cursor.next? = none ∧
        m.state.frames = (run settings env script).state.frames ∧ opens words = closes words ∧
        ∀ done, done <+: words → closes done ≤ opens done) := by
  refine ⟨fun m => reaches_iff_trail.1, fun words m h => ?_, fun hok => ?_⟩
  · refine ⟨h.framed, fun done => h.closes_le_opens, fun next hturn => ?_,
      fun final error hturn => ?_⟩
    · obtain ⟨word, cursor, hnext, hstep⟩ := stack_of_goesOn hturn
      exact ⟨word, cursor, hnext, hstep, fun hword => nests_of_opened hnext hword hturn⟩
    · have hstays := stack_of_stops hturn
      exact ⟨hstays, h.framed.stays hstays⟩
  · obtain ⟨m, final, hreach, hstops, hfinal⟩ := (ends_iff_run settings env script _).2 rfl
    rw [hok] at hstops
    obtain ⟨words, h⟩ := reaches_iff_trail.1 hreach
    rcases stops_cases hstops with ⟨hnext, rfl, herror⟩ | ⟨_, _, _, -, -, herror, -⟩
    · -- At the end of the script an open block is an error.
      have hdepth : final.state.frames.depth = 0 := by
        by_contra hopen
        rw [if_neg hopen] at herror
        cases herror
      have hbalance := h.framed.depth
      exact ⟨words, final, h, hnext, congrArg State.frames hfinal, by omega,
        fun done => h.closes_le_opens⟩
    · cases herror

/-- A script with braces for operands, and a block inside a block. -/
def sampleNest : List UInt8 := Utf8.encode "if \x7b == \x7b \x7b log \x7d\n\x7b \x7d \x7d"

/-- Four turns into the sample two blocks are open; it succeeds, as both are closed. -/
theorem sampleNest_framed :
    (∃ m words, (Machine.start (.empty []) sampleNest).turns (.plain Regex.engine) 0 4 = some m ∧
      Trail (.plain Regex.engine) (.start (.empty []) sampleNest) words m ∧
      m.state.frames.depth = 2 ∧ Framed words m.state.frames) ∧
    (run (.plain Regex.engine) (.empty []) sampleNest).error = none ∧
      ∃ words m, Trail (.plain Regex.engine) (.start (.empty []) sampleNest) words m ∧
        m.cursor.next? = none ∧
        m.state.frames = (run (.plain Regex.engine) (.empty []) sampleNest).state.frames ∧
        opens words = closes words ∧ ∀ done, done <+: words → closes done ≤ opens done := by
  have hturns : ((Machine.start (.empty []) sampleNest).turns (.plain Regex.engine) 0 4).any
      (fun m => m.state.frames.depth = 2) = true := by decide +kernel
  have hok : (run (.plain Regex.engine) (.empty []) sampleNest).error = none := by decide +kernel
  obtain ⟨hreach, hframes, hrun⟩ := frames_along_run (.plain Regex.engine) (.empty []) sampleNest
  obtain ⟨m, hm, hdepth⟩ := (Option.any_eq_true _ _).1 hturns
  obtain ⟨words, htrail⟩ := hreach m (within_of_turns hm)
  exact ⟨⟨m, words, hm, htrail, of_decide_eq_true hdepth, (hframes words m htrail).1⟩, hok, hrun hok⟩

end Wordwise

end RuleScript
