/-
  RuleScript.Proofs.Wordwise.Skipping
  ───────────────────────────────────
  **Skipped blocks: the words are taken, and nothing else happens.**

  A run inside a block and a run that skips it stay in lockstep: the same place
  in the script, the same number of open blocks.  Their environments may drift
  apart as they please, because what a statement takes does not depend on them.
  And in the run that skips, no statement reaches anything: neither environment
  nor log is changed, no request is made, and what can still go wrong is the
  wording.

  Main results:
    • `skipping_takes_same_words` — where the one run gets to the closing brace,
      so does the other.
    • `skipped_block_is_inert` — a skipped block has no effect, whatever is in it.
-/
import RuleScript.Proofs.Wordwise.Agreement
import RuleScript.Regex.Replace

namespace RuleScript.Wordwise

open Script (Cursor)

/-! ## §1. Turns in a row. -/

/-- Takes `n` turns, if they all go on with at least `depth` blocks open. -/
def Machine.turns (settings : Settings) (depth : Nat) : Nat → Machine → Option Machine
  | 0, m => some m
  | n + 1, m =>
    match m.turn settings with
    | .goesOn next =>
      if depth ≤ next.state.frames.depth then next.turns settings depth n else none
    | .stops _ _ => none

theorem within_of_turns {settings : Settings} {depth n : Nat} {m m' : Machine}
    (h : m.turns settings depth n = some m') : Within settings depth m m' := by
  induction n generalizing m with
  | zero =>
      cases h
      exact .here
  | succ n ih =>
      rw [Machine.turns] at h
      cases hturn : m.turn settings with
      | stops last error =>
          rw [hturn] at h
          cases h
      | goesOn next =>
          rw [hturn] at h
          by_cases hdeep : depth ≤ next.state.frames.depth
          · simp only [if_pos hdeep] at h
            exact .turn hturn hdeep (ih h)
          · simp only [if_neg hdeep] at h
            cases h

/-- Takes `n` turns in the innermost block and one that closes it. -/
def Machine.closed? (settings : Settings) (n : Nat) (m : Machine) : Option Machine :=
  match m.turns settings m.state.frames.depth n with
  | none => none
  | some last =>
    match last.turn settings with
    | .goesOn closed =>
      if closed.state.frames.depth < m.state.frames.depth then some closed else none
    | .stops _ _ => none

theorem closes_of_closed? {settings : Settings} {n : Nat} {m closed : Machine}
    (h : m.closed? settings n = some closed) : Closes settings m closed := by
  unfold Machine.closed? at h
  cases hturns : m.turns settings m.state.frames.depth n with
  | none =>
      rw [hturns] at h
      cases h
  | some last =>
      rw [hturns] at h
      cases hturn : last.turn settings with
      | stops final error =>
          simp only [hturn] at h
          cases h
      | goesOn next =>
          simp only [hturn] at h
          by_cases hclosed : next.state.frames.depth < m.state.frames.depth
          · rw [if_pos hclosed] at h
            cases h
            exact ⟨last, within_of_turns hturns, hturn, hclosed⟩
          · rw [if_neg hclosed] at h
            cases h

/-- What every turn keeps, a row of turns keeps. -/
theorem Within.invariant {settings : Settings} {depth : Nat} {P : Machine → Prop}
    (hstep : ∀ m m', P m → m.turn settings = .goesOn m' → depth ≤ m'.state.frames.depth → P m')
    {m m' : Machine} (hwithin : Within settings depth m m') (h : P m) : P m' := by
  induction hwithin with
  | here => exact h
  | turn first deep rest ih => exact ih (hstep _ _ h first deep)

/-! ## §2. Lockstep. -/

/-- Two runs at one place, inside a block over `below` that the second one skips. -/
structure Lockstep (below : List Frame) (a b : Machine) : Prop where
  cursor : a.cursor = b.cursor
  depth : a.state.frames.depth = b.state.frames.depth
  stands : below <:+ a.state.frames.below
  skips : b.state.frames.SkipsOver below

section
variable {settings : Settings} {below : List Frame}

/-- The frames of two runs after one and the same statement: both still stand on
`below`, or both have just come back to it. -/
theorem frames_lockstep {s t : State} {item : Script.Located}
    (hdepth : s.frames.depth = t.frames.depth) (hover : below <:+ s.frames.below)
    (hskips : t.frames.SkipsOver below) (hs : (s.step settings item).fault = none)
    (ht : (t.step settings item).fault = none) :
    (s.step settings item).state.frames.depth = (t.step settings item).state.frames.depth ∧
      (below.length ≤ (s.step settings item).state.frames.depth →
        below <:+ (s.step settings item).state.frames.below) ∧
      ((s.step settings item).state.frames.depth < below.length →
        (s.step settings item).state.frames = (t.step settings item).state.frames) := by
  have hlen : below.length ≤ s.frames.depth := hover.length_le
  -- Both runs open a block, both close one, or both stay in theirs.
  rcases s.frames_step settings item with ⟨hitem, hpush⟩ | ⟨hitem, hpop⟩ | ⟨hopen, hclose, htouch⟩
  · rcases t.frames_step settings item with ⟨-, hpush'⟩ | ⟨hitem', -⟩ | ⟨hopen', -, -⟩
    · rw [hpush, hpush']
      refine ⟨congrArg (· + 1) hdepth, fun _ => hover.trans (List.suffix_cons _ _), fun hlt => ?_⟩
      have hdeeper : s.frames.depth + 1 < below.length := hlt
      omega
    · rw [hitem] at hitem'
      cases hitem'
    · exact absurd hitem hopen'
  · rcases t.frames_step settings item with ⟨hitem', -⟩ | ⟨-, hpop'⟩ | ⟨-, hclose', -⟩
    · rw [hitem] at hitem'
      cases hitem'
    · have hbelow := Frames.below_of_pop? hpop
      have hshorter : s.frames.depth = (s.step settings item).state.frames.depth + 1 :=
        congrArg List.length hbelow
      have hshorter' : t.frames.depth = (t.step settings item).state.frames.depth + 1 :=
        congrArg List.length (Frames.below_of_pop? hpop')
      refine ⟨by omega, fun hdeep => ?_, fun hlt => ?_⟩
      · rw [hbelow] at hover
        rcases List.suffix_cons_iff.1 hover with h | h
        · have hlen' := congrArg List.length h
          rw [List.length_cons] at hlen'
          unfold Frames.depth at hdeep
          omega
        · exact h
      · have hs' := Frames.below_of_closed hover hpop hlt
        have ht' := Frames.below_of_closed hskips.suffix hpop' (by omega)
        exact Frames.eq_of_cons (hs'.trans ht'.symm)
    · exact absurd ht (hclose' hitem)
  · rcases t.frames_step settings item with ⟨hitem', -⟩ | ⟨hitem', -⟩ | ⟨-, -, htouch'⟩
    · exact absurd hitem' hopen
    · exact absurd hs (hclose hitem')
    · have hdepth' : (s.step settings item).state.frames.depth = s.frames.depth :=
        congrArg List.length htouch.below_eq
      refine ⟨?_, fun _ => ?_, fun hlt => ?_⟩
      · rw [hdepth', hdepth]
        exact (congrArg List.length htouch'.below_eq).symm
      · rw [htouch.below_eq]
        exact hover
      · omega

/-- **One turn in lockstep.**  The skipping run makes a turn too; then both are in
lockstep again, or both have left the block. -/
theorem Lockstep.turn {a a' b : Machine} (h : Lockstep below a b)
    (ha : a.turn settings = .goesOn a') :
    ∃ b', b.turn settings = .goesOn b' ∧ b'.cursor = a'.cursor ∧
      a'.state.frames.depth = b'.state.frames.depth ∧
      (below.length ≤ a'.state.frames.depth → Lockstep below a' b') ∧
      (a'.state.frames.depth < below.length → b'.state.frames = a'.state.frames) := by
  obtain ⟨word, c, hnext, hok, hstate, hcursor, -⟩ := goesOn_cases ha
  -- The words are the same, so the statement is, and it goes on there as well.
  have hnext' : b.cursor.next? = some (word, c) := h.cursor ▸ hnext
  have hok' : (b.state.step settings (headed word c)).fault = none :=
    State.step_skipped_ok h.skips.active h.depth hok
  obtain ⟨b', hturn, hstate', hcursor'⟩ := exists_goesOn hnext' hok'
  obtain ⟨hdepth, hover, hclosed⟩ := frames_lockstep h.depth h.stands h.skips hok hok'
  rw [← hstate, ← hstate'] at hdepth
  rw [← hstate] at hover
  rw [← hstate, ← hstate'] at hclosed
  refine ⟨b', hturn, hcursor'.trans hcursor.symm, hdepth, fun hdeep => ?_,
    fun hlt => (hclosed hlt).symm⟩
  have hskips : b'.state.frames.SkipsOver below := by
    have hdeep' : below.length ≤ (b.state.step settings (headed word c)).state.frames.depth := by
      rw [← hstate', ← hdepth]
      exact hdeep
    rw [hstate']
    exact h.skips.step settings (headed word c) hdeep'
  exact ⟨hcursor.trans hcursor'.symm, hdepth, hover hdeep, hskips⟩

/-- Lockstep over any number of turns inside the block. -/
theorem Lockstep.within {a a' b : Machine} (hwithin : Within settings below.length a a')
    (h : Lockstep below a b) :
    ∃ b', Within settings below.length b b' ∧ Lockstep below a' b' := by
  induction hwithin generalizing b with
  | here => exact ⟨b, .here, h⟩
  | turn first deep rest ih =>
      obtain ⟨b₁, hturn, -, hdepth, hlock, -⟩ := h.turn first
      obtain ⟨b₂, hrest, hlock₂⟩ := ih (hlock deep)
      exact ⟨b₂, .turn hturn (hdepth ▸ deep) hrest, hlock₂⟩

end

/-- **Skipping a block takes the words that running it takes.**  Where a run
gets from inside a block to the place after its closing brace, the run that differs
in that the block is skipped gets to the same place and line, with the same frames
and so with as many blocks open. -/
theorem skipping_takes_same_words (settings : Settings) (cursor : Cursor) (env : Environment)
    (entries : List LogEntry) (requests : List Request) (frame : Frame) (below : List Frame)
    {ran : Machine}
    (h : Closes settings
      ⟨cursor, ⟨⟨{ frame with active := true }, below⟩, env, entries⟩, requests⟩ ran) :
    ∃ skipped, Closes settings
        ⟨cursor, ⟨⟨{ frame with active := false }, below⟩, env, entries⟩, requests⟩ skipped ∧
      skipped.cursor = ran.cursor ∧ skipped.state.frames = ran.state.frames := by
  obtain ⟨last, hwithin, hturn, hclosed⟩ := h
  have hstart : Lockstep below
      ⟨cursor, ⟨⟨{ frame with active := true }, below⟩, env, entries⟩, requests⟩
      ⟨cursor, ⟨⟨{ frame with active := false }, below⟩, env, entries⟩, requests⟩ :=
    ⟨rfl, rfl, List.suffix_refl _, .of_inactive rfl⟩
  obtain ⟨last', hwithin', hlock⟩ := hstart.within hwithin
  obtain ⟨skipped, hturn', hcursor, hdepth, -, hframes⟩ := hlock.turn hturn
  exact ⟨skipped, ⟨last', hwithin', hturn', hdepth ▸ hclosed⟩, hcursor, hframes hclosed⟩

/-- Just inside a block that declares a variable and has a chain, with braces and
keywords for operands and changes of that variable in a branch that is not taken. -/
def sampleBlock (active : Bool) : Machine :=
  ⟨⟨Utf8.encode
      "\n var x \x7b if \x7d != \x7d \x7b x = log x.y unset \x7d else \x7b log \"\x7d if\" \x7d\n\x7d z",
    3⟩, ⟨⟨.new active, [.new true]⟩, .empty [], []⟩, []⟩

/-- The sample block, run and skipped. -/
theorem sampleBlock_same_words :
    ∃ ran, (sampleBlock true).closed? (.plain Regex.engine) 11 = some ran ∧
      ∃ skipped, Closes (.plain Regex.engine) (sampleBlock false) skipped ∧
        skipped.cursor = ran.cursor ∧ skipped.state.frames = ran.state.frames := by
  have hcloses : ((sampleBlock true).closed? (.plain Regex.engine) 11).isSome = true := by
    decide +kernel
  obtain ⟨ran, hran⟩ := Option.isSome_iff_exists.1 hcloses
  exact ⟨ran, hran,
    skipping_takes_same_words (.plain Regex.engine) _ _ _ _ (.new true) [.new true]
      (closes_of_closed? hran)⟩

/-! ## §3. Nothing happens. -/

/-- Environment, log and requests of `m` are those of `before`. -/
def Untouched (before m : Machine) : Prop :=
  m.state.env = before.state.env ∧ m.state.log = before.state.log ∧
    m.requests = before.requests

theorem Untouched.trans {a b c : Machine} (h : Untouched a b) (h' : Untouched b c) :
    Untouched a c :=
  ⟨h'.1.trans h.1, h'.2.1.trans h.2.1, h'.2.2.trans h.2.2⟩

/-- The faults that can end a run at `m`, in a skipped block: a missing operand, a word
that could not be a target, an operator unknown to one that could, and blocks left
open where no word is left. -/
def EndsSkipped (m : Machine) : Fault → Prop
  | .missingOperand _ _ => True
  | .unexpectedItem word => m.state.knows word = false
  | .unknownOperator _ target => m.state.knows target = true
  | .openBlocks count => m.cursor.next? = none ∧ count = m.state.frames.depth
  | _ => False

theorem EndsSkipped.errorClass {m : Machine} {fault : Fault} (h : EndsSkipped m fault) :
    fault.errorClass = .grammar ∨ fault.errorClass = .validator := by
  cases fault with
  | missingOperand => exact .inl rfl
  | unexpectedItem => exact .inl rfl
  | openBlocks => exact .inl rfl
  | unknownOperator => exact .inr rfl
  | _ => exact absurd h not_false

section
variable {settings : Settings} {m m' : Machine}

theorem untouched_of_goesOn (ha : m.state.active = false)
    (hturn : m.turn settings = .goesOn m') : Untouched m m' := by
  obtain ⟨word, c, -, -, hstate, -, hrequests⟩ := goesOn_cases hturn
  obtain ⟨henv, hlog, -⟩ := State.inert_step settings ha (headed word c)
  unfold Untouched
  rw [hstate]
  exact ⟨henv, hlog, hrequests ha⟩

/-- A run that stops in a skipped block stops with an error in the wording. -/
theorem untouched_of_stops (ha : m.state.active = false) (hground : m.state.frames.Grounded)
    {error : Option ScriptError} (hturn : m.turn settings = .stops m' error) :
    Untouched m m' ∧ ∃ e, error = some e ∧ EndsSkipped m e.fault := by
  have hdepth := hground.depth_ne_zero ha
  rcases stops_cases hturn with ⟨hn, rfl, rfl⟩ | ⟨word, c, fault, -, hstep, rfl, hrequests⟩
  · rw [if_neg hdepth]
    exact ⟨⟨rfl, rfl, rfl⟩, _, rfl, hn, rfl⟩
  · obtain ⟨henv, hlog, hfault⟩ := State.inert_step settings ha (headed word c)
    rw [hstep] at henv hlog hfault
    refine ⟨⟨henv, hlog, hrequests ha⟩, _, rfl, ?_⟩
    have harises := hfault fault rfl
    cases fault with
    | missingOperand => exact trivial
    | unexpectedItem => exact harises
    | unknownOperator => exact harises
    | unmatchedClose => exact absurd harises hdepth
    | _ => exact absurd harises not_false

theorem grounded_turn (h : m.state.frames.Grounded) (hturn : m.turn settings = .goesOn m') :
    m'.state.frames.Grounded := by
  obtain ⟨word, c, -, -, hstate, -⟩ := goesOn_cases hturn
  rw [hstate]
  exact h.step settings (headed word c)

end

/-- **A skipped block is inert.**  From a state that some run reaches with its
innermost block skipped, and over any text that may follow: as long as that block is
not closed, every frame on top of it is inactive, and every turn, the closing one
included, leaves environment, log and requests as they were.  If the run stops there,
it stops with one of the errors in the wording. -/
theorem skipped_block_is_inert (settings : Settings) (env : Environment)
    (script : List UInt8) (cursor : Cursor) {m m' : Machine}
    (hreach : Reaches settings (.start env script) m) (hskipped : m.state.active = false)
    (hwithin : Within settings m.state.frames.depth { m with cursor := cursor } m') :
    Untouched m m' ∧ m'.state.frames.SkipsOver m.state.frames.below ∧
      (∀ next, m'.turn settings = .goesOn next → Untouched m next) ∧
      (∀ final error, m'.turn settings = .stops final error →
        Untouched m final ∧ ∃ e, error = some e ∧ EndsSkipped m' e.fault ∧
          (e.fault.errorClass = .grammar ∨ e.fault.errorClass = .validator)) := by
  -- A skipped block is not the script itself, so there is a brace to close it.
  have hground : m.state.frames.Grounded :=
    hreach.invariant (P := fun m => m.state.frames.Grounded)
      (fun _ _ h hturn _ => grounded_turn h hturn) rfl
  obtain ⟨huntouched, hskips, hground'⟩ := hwithin.invariant
    (P := fun m' => Untouched m m' ∧ m'.state.frames.SkipsOver m.state.frames.below ∧
      m'.state.frames.Grounded)
    (fun a b ⟨hu, hs, hg⟩ hturn hdeep => by
      refine ⟨hu.trans (untouched_of_goesOn hs.active hturn), ?_, grounded_turn hg hturn⟩
      obtain ⟨word, c, -, -, hstate, -⟩ := goesOn_cases hturn
      rw [hstate] at hdeep ⊢
      exact hs.step settings (headed word c) hdeep)
    ⟨⟨rfl, rfl, rfl⟩, .of_inactive hskipped, hground⟩
  refine ⟨huntouched, hskips, fun next hturn => ?_, fun final error hturn => ?_⟩
  · exact huntouched.trans (untouched_of_goesOn hskips.active hturn)
  · obtain ⟨hlast, e, he, hends⟩ := untouched_of_stops hskips.active hground' hturn
    exact ⟨huntouched.trans hlast, e, he, hends, hends.errorClass⟩

/-- The head of a block that is skipped. -/
def sampleHead : List UInt8 := Utf8.encode "if 1 == 2 \x7b"

/-- A text to go on with in that block: blocks and keywords in odd places, and an
operator that there is not. -/
def sampleRest : Cursor :=
  .start (Utf8.encode "var x $(y) else \x7b log $(\n if \x7d > 9 \x7b u.v = 1 \x7d u.v ~")

/-- Eight turns into that text nothing has happened, and the ninth finds the operator. -/
theorem sampleRest_is_inert :
    ∃ m m', (Machine.start (.empty []) sampleHead).turns (.plain Regex.engine) 0 2 = some m ∧
      m.state.active = false ∧
      ({ m with cursor := sampleRest } : Machine).turns (.plain Regex.engine) m.state.frames.depth 8
        = some m' ∧
      Untouched m m' ∧ m'.state.frames.SkipsOver m.state.frames.below ∧
      (∀ next, m'.turn (.plain Regex.engine) = .goesOn next → Untouched m next) ∧
      (∀ final error, m'.turn (.plain Regex.engine) = .stops final error →
        Untouched m final ∧ ∃ e, error = some e ∧ EndsSkipped m' e.fault ∧
          (e.fault.errorClass = .grammar ∨ e.fault.errorClass = .validator)) := by
  have hrun : ((Machine.start (.empty []) sampleHead).turns (.plain Regex.engine) 0 2).any (fun m =>
      !m.state.active && (({ m with cursor := sampleRest } : Machine).turns (.plain Regex.engine)
        m.state.frames.depth 8).isSome) = true := by
    decide +kernel
  obtain ⟨m, hm, hrest⟩ := (Option.any_eq_true _ _).1 hrun
  rw [Bool.and_eq_true, Bool.not_eq_true'] at hrest
  obtain ⟨m', hm'⟩ := Option.isSome_iff_exists.1 hrest.2
  exact ⟨m, m', hm, hrest.1, hm',
    skipped_block_is_inert (.plain Regex.engine) (.empty []) sampleHead sampleRest
      (within_of_turns hm) hrest.1 (within_of_turns hm')⟩

end RuleScript.Wordwise
