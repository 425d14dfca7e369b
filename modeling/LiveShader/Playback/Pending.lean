/-!
# Actions waiting for the next frame

Each action is waiting or not, so asking twice changes nothing.  A pause and a
resumption that wait for the same frame undo each other.
-/

namespace LiveShader.Playback

/-- What can be asked of the next frame. -/
inductive Action where
  | pause
  | resume
  | reset
  | capture
  deriving Repr, DecidableEq

/-- The actions that wait for the next frame. -/
structure Pending where
  pause : Bool
  resume : Bool
  reset : Bool
  capture : Bool
  deriving Repr, DecidableEq

namespace Pending

/-- No action waits. -/
def none : Pending := ⟨false, false, false, false⟩

/-- Asks for an action. -/
def post (pending : Pending) : Action → Pending
  | .pause =>
      if pending.resume then { pending with resume := false }
      else { pending with pause := true }
  | .resume =>
      if pending.pause then { pending with pause := false }
      else { pending with resume := true }
  | .reset => { pending with reset := true }
  | .capture => { pending with capture := true }

/-- Whether an action waits. -/
def isPending (pending : Pending) : Action → Bool
  | .pause => pending.pause
  | .resume => pending.resume
  | .reset => pending.reset
  | .capture => pending.capture

/-- The actions that still wait after one was taken. -/
def drop (pending : Pending) : Action → Pending
  | .pause => { pending with pause := false }
  | .resume => { pending with resume := false }
  | .reset => { pending with reset := false }
  | .capture => { pending with capture := false }

/-- Whether no action waits. -/
def isEmpty (pending : Pending) : Bool := pending = none

@[simp]
theorem isPending_drop (pending : Pending) (action other : Action) :
    (pending.drop action).isPending other =
      (pending.isPending other && decide (action ≠ other)) := by
  cases action <;> cases other <;> simp [drop, isPending]

end Pending

end LiveShader.Playback
