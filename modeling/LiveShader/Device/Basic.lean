import LiveShader.Image.Basic
import LiveShader.Number.Overflow
import LiveShader.Uniform.Value

/-!
# Graphics devices

A device compiles stages, links them into programs, and draws frames.  Every call
may change the device, and compiling, linking, beginning a frame and capturing one
may fail.  Nothing is assumed about which calls fail.  An attempt to compile a stage may
also not return, as it counts the lines of the source.
-/

namespace LiveShader

/-- A size in points. -/
structure Size where
  width : Nat
  height : Nat
  deriving Repr, DecidableEq

namespace Device

/-- The stages of a program. -/
inductive Stage where
  | vertex
  | fragment
  deriving Repr, DecidableEq

/-- The word for a stage. -/
def Stage.word : Stage → String
  | .vertex => "vertex"
  | .fragment => "fragment"

/-- Why a frame was not drawn or not captured. -/
inductive FrameError where
  /-- The target went away or no longer fits the window; the next frame tries again. -/
  | lost
  | timeout
  | outOfMemory
  | capture (cause : String)
  deriving Repr, DecidableEq

/-- The wording of an error. -/
def FrameError.message : FrameError → String
  | .lost => "render target lost or outdated"
  | .timeout => "timed out acquiring the next frame"
  | .outOfMemory => "out of memory while acquiring a frame"
  | .capture cause => "frame capture failed: " ++ cause

end Device

/-- The calls of a graphics device whose state is `δ`. -/
class Device (δ : Type) where
  /-- A compiled stage. -/
  StageObject : Type
  /-- A linked program. -/
  Program : Type
  /-- The place of one uniform in one program. -/
  Slot : Type
  /-- Compiles a stage or returns its log; the device is left as it is when this ends. -/
  compile : δ → Device.Stage → String → Except (Halt String) StageObject × δ
  releaseStage : δ → StageObject → δ
  /-- Links a vertex and a fragment stage or returns the log. -/
  link : δ → StageObject → StageObject → Except String Program × δ
  releaseProgram : δ → Program → δ
  /-- The place of a uniform; nothing when the program does not use the name. -/
  slot? : δ → Program → String → Option Slot
  /-- The size of the target. -/
  viewport : δ → Size
  /-- Acquires and clears the target of a frame. -/
  beginFrame : δ → Except Device.FrameError Unit × δ
  bindProgram : δ → Program → δ
  /-- Writes a uniform of the bound program for this frame. -/
  setUniform : δ → Slot → Uniform.Value → δ
  draw : δ → δ
  /-- Reads back the frame that was drawn. -/
  capture : δ → Except Device.FrameError Image × δ
  /-- Presents the frame. -/
  endFrame : δ → δ

end LiveShader
