/-
  RuleScript.Run.Frame
  ────────────────────
  **Which blocks of a script take effect.**

  Every open block has a frame, and there is one more for the script itself,
  which never closes.  A frame knows whether the statements of its block take
  effect, whether a block that is opened next would, and whether a condition of
  the current chain has held.  A block takes effect only inside one that does.
-/

namespace RuleScript

/-- The state of one block. -/
structure Frame where
  /-- The statements of the block take effect. -/
  active : Bool
  /-- A block that is opened next takes effect, if this one does. -/
  nextRuns : Bool
  /-- A condition of the current chain has held. -/
  chainHeld : Bool
  deriving Repr, DecidableEq

namespace Frame

/-- A block that has just been opened. -/
def new (active : Bool) : Frame := ⟨active, true, false⟩

/-- The block that is opened next is skipped. -/
def skipNext (frame : Frame) : Frame := { frame with nextRuns := false }

/-- The block that is opened next runs. -/
def runNext (frame : Frame) : Frame := { frame with nextRuns := true }

/-- A new chain starts. -/
def startChain (frame : Frame) : Frame := { frame with chainHeld := false }

/-- A condition of the chain has been evaluated. -/
def decided (frame : Frame) (result : Bool) : Frame :=
  { frame with nextRuns := result, chainHeld := frame.chainHeld || result }

/-- The chain comes to what runs when no condition has held. -/
def otherwise (frame : Frame) : Frame :=
  if frame.active then { frame with nextRuns := !frame.chainHeld, chainHeld := true }
  else frame.skipNext

end Frame

/-- The frames of all open blocks, the innermost one on top. -/
structure Frames where
  top : Frame
  below : List Frame
  deriving Repr, DecidableEq

namespace Frames

/-- Only the script itself is open. -/
def start : Frames := ⟨.new true, []⟩

/-- How many blocks are open. -/
def depth (frames : Frames) : Nat := frames.below.length

/-- Statements take effect here. -/
def active (frames : Frames) : Bool := frames.top.active

/-- Changes the innermost frame. -/
def mapTop (f : Frame → Frame) (frames : Frames) : Frames := { frames with top := f frames.top }

/-- Opens a block. -/
def push (frames : Frames) : Frames :=
  ⟨.new (frames.top.active && frames.top.nextRuns), frames.top :: frames.below⟩

/-- Closes the innermost block, unless it is the script itself. -/
def pop? (frames : Frames) : Option Frames :=
  match frames.below with
  | [] => none
  | frame :: below => some ⟨frame, below⟩

theorem active_push (frames : Frames) :
    frames.push.active = (frames.active && frames.top.nextRuns) := rfl

theorem pop?_eq_none_iff {frames : Frames} : frames.pop? = none ↔ frames.depth = 0 := by
  obtain ⟨top, below⟩ := frames
  cases below <;> simp [pop?, depth]

end Frames

end RuleScript
