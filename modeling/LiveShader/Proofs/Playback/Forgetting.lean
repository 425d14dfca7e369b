import LiveShader.Proofs.Playback.PlayedTime

/-!
# What the first frame forgets

The first frame of a session begins its timeline and uses up all waiting actions but a
capture.  A pause, a resumption or a reset that was asked for before is therefore not seen
by any frame, while the host's own changes of the inputs do not depend on them.
-/

namespace LiveShader.Playback

/-- Inputs that agree in all but a waiting pause, resumption or reset. -/
structure Inputs.Alike (left right : Inputs) : Prop where
  others : { left with pending := right.pending } = right
  capture : left.pending.capture = right.pending.capture

namespace Inputs.Alike

variable {left right : Inputs}

theorem paused (alike : left.Alike right) : left.paused = right.paused := by
  rw [← alike.others]

theorem controls (alike : left.Alike right) : left.controls = right.controls := by
  rw [← alike.others]

/-- Alike inputs are the same when the same actions wait. -/
theorem withPending (alike : left.Alike right) (pending : Pending) :
    { left with pending := pending } = { right with pending := pending } :=
  congrArg (fun inputs : Inputs => { inputs with pending := pending }) alike.others

theorem withControls (alike : left.Alike right) (controls : Control.Values) :
    (left.withControls controls).Alike (right.withControls controls) :=
  ⟨congrArg (·.withControls controls) alike.others, alike.capture⟩

theorem request (alike : left.Alike right) (action : Action) :
    (left.request action).Alike (right.request action) := by
  refine ⟨alike.withPending _, ?_⟩
  have capture := alike.capture
  cases action with
  | pause => simp only [Inputs.request, Pending.post]; split <;> split <;> exact capture
  | resume => simp only [Inputs.request, Pending.post]; split <;> split <;> exact capture
  | reset => exact capture
  | capture => rfl

theorem setPaused (alike : left.Alike right) (paused : Bool) :
    (left.setPaused paused).Alike (right.setPaused paused) := by
  rw [Inputs.setPaused, Inputs.setPaused, alike.paused]
  split
  · exact alike
  · have asked := alike.request (if paused then .pause else .resume)
    refine ⟨?_, asked.capture⟩
    exact congrArg (fun inputs : Inputs => { inputs with paused := paused }) asked.others

/-- An accepted or refused setting of a control depends on the controls alone. -/
theorem update (alike : left.Alike right)
    (change : Control.Values → Except Control.Error Control.Values) :
    Inputs.Alike (((change left.controls).map left.withControls).toOption.getD left)
      (((change right.controls).map right.withControls).toOption.getD right) := by
  rw [alike.controls]
  cases change right.controls with
  | error refusal => exact alike
  | ok controls => exact alike.withControls controls

/-- No change of the inputs tells alike ones apart. -/
theorem apply (alike : left.Alike right) (change : Change) :
    (change.apply left).Alike (change.apply right) := by
  cases change with
  | setPaused paused => exact alike.setPaused paused
  | togglePaused =>
      have turned := alike.setPaused (!left.paused)
      rw [alike.paused] at turned
      simpa only [Change.apply, Inputs.togglePaused, alike.paused] using turned
  | resetTime => exact alike.request .reset
  | capture => exact alike.request .capture
  | setViewport viewport =>
      exact ⟨congrArg (·.setViewport viewport) alike.others, alike.capture⟩
  | setPointer x y =>
      exact ⟨congrArg (·.setPointer x y) alike.others, alike.capture⟩
  | setControl name value => exact alike.update fun controls => controls.set name value
  | setControlText name raw => exact alike.update fun controls => controls.setText name raw

end Inputs.Alike

/-! ## The first frame -/

theorem Timeline.remaining_congr {pending other : Pending}
    (capture : pending.capture = other.capture) : remaining pending = remaining other := by
  simp only [remaining, Pending.drop, capture]

/-- A timeline that has not begun does not see which actions wait. -/
theorem Timeline.advance_congr {timeline : Timeline} (unstarted : timeline.origin = none)
    {pending other : Pending} (capture : pending.capture = other.capture) (now : Instant)
    (paused : Bool) :
    timeline.advance now paused pending = timeline.advance now paused other := by
  simp only [advance, applyActions, unstarted, remaining_congr capture]

end LiveShader.Playback
