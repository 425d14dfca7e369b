import LiveShader.Control.Values
import LiveShader.Device.Basic
import LiveShader.Playback.Pending

/-!
# What a host may change between frames

The pause flag, the waiting actions, the pointer, the size of the view and the
values of the controls belong to the host.  Frames read them and use up the
waiting actions.
-/

namespace LiveShader.Playback

/-- A point of the view; the origin is at the bottom left. -/
structure Pointer where
  x : Number.Single
  y : Number.Single
  deriving DecidableEq

/-- What a host may change between frames. -/
structure Inputs where
  paused : Bool
  pending : Pending
  pointer : Pointer
  viewport : Size
  controls : Control.Values

namespace Inputs

/-- The width and height as numbers. -/
def extent (size : Size) : Number.Single × Number.Single :=
  (Number.singleOfInt size.width, Number.singleOfInt size.height)

/-- The middle of a view. -/
def centre (size : Size) : Pointer :=
  let two := Number.singleOfInt 2
  ⟨(extent size).1 / two, (extent size).2 / two⟩

/-- The inputs at the start: nothing waits and there are no controls. -/
def start (viewport : Size) (paused : Bool) : Inputs :=
  ⟨paused, .none, centre viewport, viewport, .empty⟩

/-- Sets the pause flag; an action waits only if the flag changes. -/
def setPaused (inputs : Inputs) (paused : Bool) : Inputs :=
  if inputs.paused = paused then inputs
  else
    { inputs with
      paused := paused
      pending := inputs.pending.post (if paused then .pause else .resume) }

/-- Turns the pause flag around. -/
def togglePaused (inputs : Inputs) : Inputs := inputs.setPaused (!inputs.paused)

/-- Asks for an action. -/
def request (inputs : Inputs) (action : Action) : Inputs :=
  { inputs with pending := inputs.pending.post action }

/-- Changes the size of the view and puts the pointer into its middle. -/
def setViewport (inputs : Inputs) (viewport : Size) : Inputs :=
  { inputs with viewport := viewport, pointer := centre viewport }

/-- Keeps a number between zero and a limit. -/
def within (value limit : Number.Single) : Number.Single :=
  Number.clampSingle value (Number.singleOfInt 0) limit

/-- Moves the pointer to a point given from the top left. -/
def setPointer (inputs : Inputs) (x y : Number.Double) : Inputs :=
  let (width, height) := extent inputs.viewport
  { inputs with
    pointer :=
      ⟨within (Number.singleOfDouble x) width,
        within (height - Number.singleOfDouble y) height⟩ }

/-- The pointer as programs see it: always within the view. -/
def pointerUniform (inputs : Inputs) : Pointer :=
  let (width, height) := extent inputs.viewport
  ⟨within inputs.pointer.x width, within inputs.pointer.y height⟩

/-- Replaces the values of the controls. -/
def withControls (inputs : Inputs) (controls : Control.Values) : Inputs :=
  { inputs with controls := controls }

/-- Installs a list of controls at their defaults. -/
def installControls (inputs : Inputs) (specs : List Control.Spec) : Inputs :=
  inputs.withControls (.ofSpecs specs)

/-- Sets a control to a value. -/
def setControl (inputs : Inputs) (name : String) (value : Control.Value) :
    Except Control.Error Inputs :=
  (inputs.controls.set name value).map inputs.withControls

/-- Sets a control from text. -/
def setControlText (inputs : Inputs) (name raw : String) : Except Control.Error Inputs :=
  (inputs.controls.setText name raw).map inputs.withControls

end Inputs

end LiveShader.Playback
