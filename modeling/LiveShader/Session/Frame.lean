import LiveShader.Playback.Inputs
import LiveShader.Playback.Timeline
import LiveShader.Program.Binding

/-!
# The frames of a session

A session is one program with its uniforms and its timeline.  A frame advances the
timeline, draws the program with the current uniforms, captures the result if that
was asked for, and presents it.  When the target cannot be acquired the frame is
skipped, and a waiting capture keeps waiting.
-/

namespace LiveShader.Session

open LiveShader.Playback

/-- The number of a session. -/
abbrev Id := Nat

/-- A frame that was scheduled for a session. -/
structure Ticket where
  session : Id
  deriving Repr, DecidableEq

/-- What a drawn frame reports. -/
structure Report where
  elapsed : Number.Single
  readout : Option Readout
  /-- The result of a capture, if one was asked for. -/
  capture : Option (Except Device.FrameError Image)

/-- What became of a frame. -/
inductive Outcome where
  /-- Its session is over; nothing was touched. -/
  | cancelled
  | rendered (report : Report)
  /-- The target could not be acquired. -/
  | skipped (error : Device.FrameError)

end LiveShader.Session

namespace LiveShader

open LiveShader.Playback LiveShader.Session

/-- One program with its uniforms and its timeline. -/
structure Session (δ : Type) [Device δ] where
  id : Session.Id
  program : Device.Program δ
  bindings : Program.Bindings (Device.Slot δ)
  timeline : Timeline

namespace Session

variable {δ : Type} [Device δ]

/-- The next frame of a session. -/
def ticket (session : Session δ) : Ticket := ⟨session.id⟩

/-- The values of the uniforms that are built in. -/
def frameUniforms (viewport : Size) (elapsed : Number.Single) (inputs : Inputs) :
    Program.FrameUniforms :=
  ⟨Inputs.extent viewport, elapsed, inputs.pointerUniform⟩

/-- Captures the frame that was drawn, if that was asked for. -/
def captureIfAsked (device : δ) (asked : Bool) :
    Option (Except Device.FrameError Image) × δ :=
  if asked then
    let (image, device) := Device.capture device
    (some image, device)
  else (none, device)

/-- Draws and presents a frame whose target is acquired. -/
def draw (session : Session δ) (device : δ) (inputs : Inputs) (sample : Sample) :
    Report × δ × Inputs :=
  let frame := frameUniforms (Device.viewport device) sample.elapsed inputs
  let device := Device.bindProgram device session.program
  let device := session.bindings.upload device frame inputs.controls
  let device := Device.draw device
  let (capture, device) := captureIfAsked device inputs.pending.capture
  let device := Device.endFrame device
  (⟨sample.elapsed, sample.readout, capture⟩, device,
    { inputs with pending := inputs.pending.drop .capture })

/-- What a frame leaves behind. -/
structure Step (δ : Type) [Device δ] where
  outcome : Outcome
  session : Session δ
  device : δ
  inputs : Inputs

/-- Runs one frame at an instant. -/
def frame (session : Session δ) (device : δ) (inputs : Inputs) (now : Instant) :
    Step δ :=
  let (sample, timeline, pending) := session.timeline.advance now inputs.paused inputs.pending
  let session := { session with timeline := timeline }
  let inputs := { inputs with pending := pending }
  match Device.beginFrame device with
  | (.error error, device) => ⟨.skipped error, session, device, inputs⟩
  | (.ok _, device) =>
      let (report, device, inputs) := session.draw device inputs sample
      ⟨.rendered report, session, device, inputs⟩

end Session

end LiveShader
