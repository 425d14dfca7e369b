import LiveShader.Device.Basic

/-!
# A device that follows a script

A scripted device draws nothing.  It fails where its script says so, numbers the
stages and programs that it hands out, and keeps the list of its calls.  It serves
to rehearse sessions without graphics hardware.
-/

namespace LiveShader.Device

/-- A call of a scripted device and what came of it. -/
inductive Call where
  | compiled (stage : Stage) (bytes id : Nat)
  | compileFailed (stage : Stage)
  | releasedStage (id : Nat)
  | linked (vertex fragment id : Nat)
  | linkFailed (vertex fragment : Nat)
  | releasedProgram (id : Nat)
  | began
  | beginFailed
  | bound (id : Nat)
  | set (program index : Nat) (value : Uniform.Value)
  | drew
  | captured
  | ended
  deriving DecidableEq

/-- The line of a log for a call, given how values are written. -/
def Call.text (valueText : Uniform.Value → String) : Call → String
  | .compiled stage bytes id =>
      "compile " ++ stage.word ++ " (" ++ toString bytes ++ " bytes) -> " ++ toString id
  | .compileFailed stage => "compile " ++ stage.word ++ " fails"
  | .releasedStage id => "release stage " ++ toString id
  | .linked vertex fragment id =>
      "link " ++ toString vertex ++ " " ++ toString fragment ++ " -> " ++ toString id
  | .linkFailed vertex fragment =>
      "link " ++ toString vertex ++ " " ++ toString fragment ++ " fails"
  | .releasedProgram id => "release program " ++ toString id
  | .began => "begin"
  | .beginFailed => "begin fails"
  | .bound id => "bind " ++ toString id
  | .set program index value =>
      "set " ++ toString program ++ "." ++ toString index ++ " " ++ valueText value
  | .drew => "draw"
  | .captured => "capture"
  | .ended => "end"

/-- A stage of a scripted device. -/
structure ScriptedStage where
  id : Nat
  stage : Stage
  deriving Repr, DecidableEq

/-- A program of a scripted device: its number and the uniforms it uses. -/
structure ScriptedProgram where
  id : Nat
  uniforms : List String
  deriving Repr, DecidableEq

/-- The place of a uniform: its program and its number there. -/
structure ScriptedSlot where
  program : Nat
  index : Nat
  deriving Repr, DecidableEq

/-- A device that follows a script. -/
structure Scripted where
  viewport : Size
  /-- The uniforms that the next programs use. -/
  uniforms : List String
  /-- The log with which the next attempt to compile or link fails. -/
  vertexFailure : Option String
  fragmentFailure : Option String
  linkFailure : Option String
  /-- The errors of the next attempts to begin and to capture a frame. -/
  beginErrors : List FrameError
  captureErrors : List FrameError
  nextId : Nat
  /-- The calls so far, the newest first. -/
  calls : List Call

namespace Scripted

/-- A device that does not fail. -/
def ofViewport (viewport : Size) : Scripted :=
  ⟨viewport, [], none, none, none, [], [], 1, []⟩

/-- Notes a call. -/
def note (device : Scripted) (call : Call) : Scripted :=
  { device with calls := call :: device.calls }

/-- The log with which the next attempt to compile a stage fails. -/
def failure (device : Scripted) : Stage → Option String
  | .vertex => device.vertexFailure
  | .fragment => device.fragmentFailure

/-- The script without the failure of a stage. -/
def clearFailure (device : Scripted) : Stage → Scripted
  | .vertex => { device with vertexFailure := none }
  | .fragment => { device with fragmentFailure := none }

/-- Lets the next attempt to compile a stage fail. -/
def failCompile (device : Scripted) (log : String) : Stage → Scripted
  | .vertex => { device with vertexFailure := some log }
  | .fragment => { device with fragmentFailure := some log }

/-- Compiles a stage as the script says. -/
def compile (device : Scripted) (stage : Stage) (source : String) :
    Except (Halt String) ScriptedStage × Scripted :=
  match device.failure stage with
  | some log =>
      (.error (.refused log), (device.clearFailure stage).note (.compileFailed stage))
  | none =>
      let id := device.nextId
      (.ok ⟨id, stage⟩,
        { device with nextId := id + 1 }.note (.compiled stage source.utf8ByteSize id))

/-- Links a program as the script says. -/
def link (device : Scripted) (vertex fragment : ScriptedStage) :
    Except String ScriptedProgram × Scripted :=
  match device.linkFailure with
  | some log =>
      (.error log, { device with linkFailure := none }.note (.linkFailed vertex.id fragment.id))
  | none =>
      let id := device.nextId
      (.ok ⟨id, device.uniforms⟩,
        { device with nextId := id + 1 }.note (.linked vertex.id fragment.id id))

/-- Begins a frame as the script says. -/
def beginFrame (device : Scripted) : Except FrameError Unit × Scripted :=
  match device.beginErrors with
  | error :: rest => (.error error, { device with beginErrors := rest }.note .beginFailed)
  | [] => (.ok (), device.note .began)

/-- Captures a frame as the script says; the image is black. -/
def capture (device : Scripted) : Except FrameError Image × Scripted :=
  match device.captureErrors with
  | error :: rest => (.error error, { device with captureErrors := rest }.note .captured)
  | [] =>
      let size := device.viewport
      (.ok ⟨size.width, size.height, Array.replicate (4 * size.width * size.height) 0⟩,
        device.note .captured)

instance : Device Scripted where
  StageObject := ScriptedStage
  Program := ScriptedProgram
  Slot := ScriptedSlot
  compile := compile
  releaseStage device stage := device.note (.releasedStage stage.id)
  link := link
  releaseProgram device program := device.note (.releasedProgram program.id)
  slot? _ program name :=
    (program.uniforms.findIdx? (· == name)).map fun index => ⟨program.id, index⟩
  viewport := viewport
  beginFrame := beginFrame
  bindProgram device program := device.note (.bound program.id)
  setUniform device slot value := device.note (.set slot.program slot.index value)
  draw device := device.note .drew
  capture := capture
  endFrame device := device.note .ended

end Scripted

end LiveShader.Device
