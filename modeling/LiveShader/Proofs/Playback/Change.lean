import LiveShader.Playback.Timeline
import LiveShader.Playback.Inputs

/-!
# Changes of the inputs between frames

A host pauses, resumes, resets, asks for captures, and moves the pointer, the view
and the controls.  Whatever it does, the waiting pause and resumption say how the
pause flag differs from the one that the last frame saw: a pause waits exactly if
the flag went up since, and a resumption exactly if it went down.
-/

namespace LiveShader.Playback

/-- A change that a host makes to the inputs between frames. -/
inductive Change where
  | setPaused (paused : Bool)
  | togglePaused
  | resetTime
  | capture
  | setViewport (viewport : Size)
  | setPointer (x y : Number.Double)
  | setControl (name : String) (value : Control.Value)
  | setControlText (name raw : String)

/-- The inputs after a change; a refused value leaves them as they are. -/
def Change.apply (change : Change) (inputs : Inputs) : Inputs :=
  match change with
  | .setPaused paused => inputs.setPaused paused
  | .togglePaused => inputs.togglePaused
  | .resetTime => inputs.request .reset
  | .capture => inputs.request .capture
  | .setViewport viewport => inputs.setViewport viewport
  | .setPointer x y => inputs.setPointer x y
  | .setControl name value => (inputs.setControl name value).toOption.getD inputs
  | .setControlText name raw => (inputs.setControlText name raw).toOption.getD inputs

/-! ## Changes of the controls alone -/

/-- Whether inputs agree with earlier ones in all that the timeline reads. -/
def Inputs.SameClock (earlier later : Inputs) : Prop :=
  later.paused = earlier.paused ∧ later.pending = earlier.pending

theorem Inputs.sameClock_of_result {inputs : Inputs} {result : Except Control.Error Inputs}
    (same : ∀ changed, result = .ok changed → inputs.SameClock changed) :
    inputs.SameClock (result.toOption.getD inputs) := by
  cases result with
  | error refusal => exact ⟨rfl, rfl⟩
  | ok changed => exact same changed rfl

theorem Inputs.sameClock_setControl (inputs : Inputs) (name : String) (value : Control.Value) :
    inputs.SameClock ((inputs.setControl name value).toOption.getD inputs) := by
  apply Inputs.sameClock_of_result
  intro changed equal
  rw [Inputs.setControl] at equal
  cases accepted : inputs.controls.set name value with
  | error refusal => rw [accepted] at equal; cases equal
  | ok controls => rw [accepted] at equal; cases equal; exact ⟨rfl, rfl⟩

theorem Inputs.sameClock_setControlText (inputs : Inputs) (name raw : String) :
    inputs.SameClock ((inputs.setControlText name raw).toOption.getD inputs) := by
  apply Inputs.sameClock_of_result
  intro changed equal
  rw [Inputs.setControlText] at equal
  cases accepted : inputs.controls.setText name raw with
  | error refusal => rw [accepted] at equal; cases equal
  | ok controls => rw [accepted] at equal; cases equal; exact ⟨rfl, rfl⟩

/-! ## The waiting actions and the pause flag -/

/--
The waiting actions fit a pause flag that was `seen` by the last frame and is
`paused` now.
-/
structure Pending.Matches (pending : Pending) (seen paused : Bool) : Prop where
  pause : pending.pause = (!seen && paused)
  resume : pending.resume = (seen && !paused)

/-- What waits fits the flag that inputs have now. -/
def Inputs.Matches (inputs : Inputs) (seen : Bool) : Prop :=
  inputs.pending.Matches seen inputs.paused

theorem Inputs.SameClock.matches {earlier later : Inputs} {seen : Bool}
    (same : earlier.SameClock later) (fits : earlier.Matches seen) : later.Matches seen := by
  rw [Inputs.Matches] at fits ⊢
  rw [same.1, same.2]
  exact fits

theorem Inputs.Matches.setPaused {inputs : Inputs} {seen : Bool} (fits : inputs.Matches seen)
    (paused : Bool) : (inputs.setPaused paused).Matches seen := by
  rcases fits with ⟨pause, resume⟩
  rw [Inputs.setPaused]
  split
  · exact ⟨pause, resume⟩
  · rename_i differs
    cases was : inputs.paused <;> cases paused <;> cases seen <;>
      simp_all [Inputs.Matches, Pending.post] <;> constructor <;> simp_all

/-- Every change of the inputs keeps the waiting actions in step with the flag. -/
theorem Inputs.Matches.apply {inputs : Inputs} {seen : Bool} (fits : inputs.Matches seen)
    (change : Change) : (change.apply inputs).Matches seen := by
  cases change with
  | setPaused paused => exact fits.setPaused paused
  | togglePaused => exact fits.setPaused (!inputs.paused)
  | resetTime => exact ⟨fits.pause, fits.resume⟩
  | capture => exact ⟨fits.pause, fits.resume⟩
  | setViewport viewport => exact fits
  | setPointer x y => exact fits
  | setControl name value => exact (inputs.sameClock_setControl name value).matches fits
  | setControlText name raw => exact (inputs.sameClock_setControlText name raw).matches fits

/-- A frame uses up the pause and the resumption, and its flag is the one seen last. -/
theorem Timeline.matches_remaining (pending : Pending) (paused : Bool) :
    (Timeline.remaining pending).Matches paused paused := by
  constructor <;> cases paused <;> rfl

end LiveShader.Playback
