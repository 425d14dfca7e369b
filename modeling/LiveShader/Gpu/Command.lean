import LiveShader.Gpu.Surface
import LiveShader.Text.Quoted

/-!
# The commands of a graphics device

The calls that reach the hardware, in the form in which a device may keep them, and
the line of a log for each.
-/

namespace LiveShader.Gpu

/-- Why a surface had no frame to give. -/
inductive SurfaceError where
  | lost
  | outdated
  | timeout
  | outOfMemory
  | other
  deriving Repr, DecidableEq

/-- The word for an error. -/
def SurfaceError.word : SurfaceError → String
  | .lost => "Lost"
  | .outdated => "Outdated"
  | .timeout => "Timeout"
  | .outOfMemory => "OutOfMemory"
  | .other => "Other"

/-- What a buffer is for. -/
inductive BufferUse where
  | uniforms
  | readback
  deriving Repr, DecidableEq

/-- The label of a buffer. -/
def BufferUse.label : BufferUse → String
  | .uniforms => "workshop uniforms"
  | .readback => "workshop capture readback"

/-- What a sequence of commands is for. -/
inductive EncoderUse where
  | frame
  | capture
  deriving Repr, DecidableEq

/-- The label of a sequence of commands. -/
def EncoderUse.label : EncoderUse → String
  | .frame => "workshop frame encoder"
  | .capture => "workshop capture encoder"

/-- The passes of a frame: one clears it, the others draw. -/
inductive Pass where
  | clear
  | drawOver
  | drawFresh
  deriving Repr, DecidableEq

/-- The label of a pass and what it does with the earlier content. -/
def Pass.label : Pass → String
  | .clear => "workshop clear pass clear"
  | .drawOver => "workshop draw pass load"
  | .drawFresh => "workshop draw pass clear"

/-- A command. -/
inductive Command where
  | configure (configuration : Configuration)
  | createModule (stage : Device.Stage)
  | createPipeline (format : Format)
  | createBuffer (id : Nat) (use : BufferUse) (size : Nat)
  | createBindGroup (buffer : Nat)
  | destroyBuffer (id : Nat)
  | acquire (failure : Option SurfaceError)
  | createEncoder (use : EncoderUse)
  | beginPass (pass : Pass)
  | drawTriangle
  | writeBuffer (id offset : Nat) (bytes : List UInt8)
  | createTexture (size : Size) (format : Format)
  | copyRows (bytesPerRow rows : Nat)
  | submit
  | present
  deriving Repr, DecidableEq

namespace Command

/-- A size as width and height. -/
def sizeText (size : Size) : String := toString size.width ++ "x" ++ toString size.height

/-- The label of a stage and its kind. -/
def moduleText : Device.Stage → String
  | .vertex => "workshop vertex Vertex"
  | .fragment => "workshop fragment Fragment"

/-- Bytes as pairs of hexadecimal digits. -/
def bytesText (bytes : List UInt8) : String :=
  String.join (bytes.map fun byte => Text.hexPadded 2 byte.toNat)

/-- The line of a log for a command. -/
def text : Command → String
  | .configure chosen =>
      "configure " ++ sizeText chosen.size ++ " " ++ chosen.format.name ++ " " ++
        chosen.presentMode.name ++ " " ++ chosen.alphaMode.name
  | .createModule stage => "module " ++ moduleText stage
  | .createPipeline format => "pipeline " ++ format.name
  | .createBuffer id use size =>
      "buffer " ++ toString id ++ " " ++ use.label ++ " " ++ toString size
  | .createBindGroup buffer => "bind group buffer " ++ toString buffer
  | .destroyBuffer id => "destroy buffer " ++ toString id
  | .acquire none => "acquire"
  | .acquire (some failure) => "acquire " ++ failure.word
  | .createEncoder use => "encoder " ++ use.label
  | .beginPass pass => "pass " ++ pass.label
  | .drawTriangle => "draw 0..3 0..1"
  | .writeBuffer id offset bytes =>
      "write buffer " ++ toString id ++ " at " ++ toString offset ++ " " ++ bytesText bytes
  | .createTexture size format => "texture " ++ sizeText size ++ " " ++ format.name
  | .copyRows bytesPerRow rows => "copy " ++ toString bytesPerRow ++ " x " ++ toString rows
  | .submit => "submit 1"
  | .present => "present"

end Command

end LiveShader.Gpu
