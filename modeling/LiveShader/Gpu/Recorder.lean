import LiveShader.Gpu.Command
import LiveShader.Gpu.Inspection
import LiveShader.Uniform.Block

/-!
# A graphics device that records its commands

The device translates stages, keeps the block of uniforms of the bound program and
issues the commands of each frame.  The commands are recorded and not executed: an
image that is read back holds a fixed pattern, and faults are queued beforehand.
-/

namespace LiveShader.Gpu

/-- What goes wrong while an image is read back. -/
inductive ReadFault where
  | poll
  | unmapped
  | mapping
  /-- The last row is missing. -/
  | short
  deriving Repr, DecidableEq

/-- A compiled stage with the block that it declares. -/
structure Stage where
  layout : Uniform.Layout
  /-- The log with which a program of this fragment stage fails to link. -/
  linkFault : Option String
  deriving Repr, DecidableEq

/-- A program: the buffer of its uniforms and their places. -/
structure Program where
  buffer : Nat
  layout : Uniform.Layout
  deriving Repr, DecidableEq

/-- A device that records its commands. -/
structure Recorder where
  configuration : Configuration
  /-- Whether a frame was begun and not presented. -/
  isInFrame : Bool
  bound : Option Program
  /-- The uniforms of the bound program. -/
  block : Uniform.Block
  nextBuffer : Nat
  /-- What the next attempts to acquire a frame fail with. -/
  surfaceErrors : List SurfaceError
  /-- What goes wrong with the next images that are read back, if anything. -/
  readFaults : List (Option ReadFault)
  /-- The commands so far, the newest first. -/
  commands : List Command

namespace Recorder

/-- Adds a command to the record. -/
def record (device : Recorder) (command : Command) : Recorder :=
  { device with commands := command :: device.commands }

/-- Adds commands to the record. -/
def recordAll (device : Recorder) (commands : List Command) : Recorder :=
  commands.foldl record device

/-- Configures the surface as it was chosen. -/
def configure (device : Recorder) : Recorder := device.record (.configure device.configuration)

/-- A device whose surface was configured. -/
def ofConfiguration (configuration : Configuration) : Recorder :=
  configure ⟨configuration, false, none, [], 1, [], [], []⟩

/-- Configures the surface for another size; a size without points is ignored. -/
def resize (device : Recorder) (size : Size) : Recorder :=
  if size.width = 0 ∨ size.height = 0 then device
  else configure { device with configuration := { device.configuration with size := size } }

/-- Creates a buffer and returns its number. -/
def createBuffer (device : Recorder) (use : BufferUse) (size : Nat) : Nat × Recorder :=
  let id := device.nextBuffer
  (id, { device with nextBuffer := id + 1 }.record (.createBuffer id use size))

/-- Translates a stage; uniforms that contradict each other are refused. -/
def translate? : Device.Stage → String → Except (Halt String) Source.Translation
  | .vertex, source =>
      match Source.translateVertex source.toList with
      | some translation => .ok translation
      | none => .error .overflow
  | .fragment, source =>
      (Source.translateFragment source.toList).mapError (Halt.map Uniform.Redeclaration.message)

/-- Translates and inspects a stage, then creates its module. -/
def compile (device : Recorder) (stage : Device.Stage) (source : String) :
    Except (Halt String) Stage × Recorder :=
  match translate? stage source with
  | .error halt => (.error halt, device)
  | .ok translation =>
      match inspectionError? translation with
      | some log => (.error (.refused log), device)
      | none =>
          let device := device.record (.createModule stage)
          match firstMarked? "@module" translation with
          | some log => (.error (.refused log), device)
          | none => (.ok ⟨translation.layout, firstMarked? "@link" translation⟩, device)

/-- Creates the pipeline of two stages and the buffer of its uniforms. -/
def link (device : Recorder) (_vertex fragment : Stage) : Except String Program × Recorder :=
  let device := device.record (.createPipeline device.configuration.format)
  match fragment.linkFault with
  | some log => (.error log, device)
  | none =>
      let (id, device) := device.createBuffer .uniforms fragment.layout.size
      (.ok ⟨id, fragment.layout⟩, device.record (.createBindGroup id))

/-- What a failed acquisition means for the frame. -/
def frameError : SurfaceError → Device.FrameError
  | .lost | .outdated | .other => .lost
  | .timeout => .timeout
  | .outOfMemory => .outOfMemory

/-- Configures the surface again if the frame was lost. -/
def recover (device : Recorder) (error : SurfaceError) : Recorder :=
  if frameError error = .lost then device.configure else device

/-- Acquires and clears a frame; one that was begun before is given up. -/
def beginFrame (device : Recorder) : Except Device.FrameError Unit × Recorder :=
  let device := { device with isInFrame := false, bound := none }
  match device.surfaceErrors with
  | error :: rest =>
      let device := { device with surfaceErrors := rest }.record (.acquire (some error))
      (.error (frameError error), device.recover error)
  | [] =>
      (.ok (),
        { device with isInFrame := true }.recordAll
          [.acquire none, .createEncoder .frame, .beginPass .clear])

/-- Binds a program; its block starts with the size of the view and zeros. -/
def bindProgram (device : Recorder) (program : Program) : Recorder :=
  let size := device.configuration.size
  { device with
    bound := some program
    block := (Uniform.Block.zeroed program.layout.size).setViewport size.width size.height }

/-- Writes a uniform of the bound program. -/
def setUniform (device : Recorder) (slot : Uniform.Slot) (value : Uniform.Value) : Recorder :=
  { device with block := device.block.write slot value }

/-- Hands over the uniforms and draws the bound program into the frame. -/
def draw (device : Recorder) : Recorder :=
  match device.isInFrame, device.bound with
  | true, some program =>
      device.recordAll
        [.writeBuffer program.buffer 0 device.block, .beginPass .drawOver, .drawTriangle]
  | _, _ => device

/-- The byte of the pattern at an index of the padded rows. -/
def patternByte (width index : Nat) : UInt8 :=
  let row := index / Image.paddedRowBytes width
  let column := index % Image.paddedRowBytes width
  if column < Image.rowBytes width then (7 * row + 3 * column).toUInt8 else 0xee

/-- The padded rows of the pattern. -/
def pattern (width rows : Nat) : Array UInt8 :=
  (Array.range (Image.paddedRowBytes width * rows)).map (patternByte width)

/-- The padded rows that are handed back, or why there are none. -/
def readBack (size : Size) : Option ReadFault → Except String (Array UInt8)
  | some .poll => .error "device poll failed: poll fault"
  | some .unmapped =>
      .error "map channel closed: receiving on an empty and disconnected channel"
  | some .mapping => .error "map failed: map fault"
  | some .short => .ok (pattern size.width (size.height - 1))
  | none => .ok (pattern size.width size.height)

/-- The image in the rows that were handed back. -/
def imageOf (size : Size) (order : Image.ChannelOrder) (data : Array UInt8) :
    Except String Image :=
  match Image.ofReadback? order size.width size.height data with
  | some image => .ok image
  | none => .error "read-back size mismatch"

/-- Draws the bound program once more, into a texture, and copies that to a buffer. -/
def recordCapture (device : Recorder) : Recorder :=
  let size := device.configuration.size
  let rowBytes := Image.paddedRowBytes size.width
  let device := device.record (.createTexture size device.configuration.format)
  let (_, device) := device.createBuffer .readback (rowBytes * size.height)
  device.recordAll
    [.createEncoder .capture, .beginPass .drawFresh, .drawTriangle,
      .copyRows rowBytes size.height, .submit]

/-- Takes the next queued fault of reading back. -/
def takeReadFault (device : Recorder) : Option ReadFault × Recorder :=
  match device.readFaults with
  | [] => (none, device)
  | fault :: rest => (fault, { device with readFaults := rest })

/-- Draws the bound program once more and reads the image back. -/
def capture (device : Recorder) : Except Device.FrameError Image × Recorder :=
  match device.bound, device.configuration.format.channelOrder? with
  | none, _ => (.error (.capture "no program bound"), device)
  | some _, none =>
      (.error (.capture ("unsupported surface format " ++ device.configuration.format.name)),
        device)
  | some _, some order =>
      let size := device.configuration.size
      let (fault, device) := device.recordCapture.takeReadFault
      let image := (readBack size fault).bind (imageOf size order)
      (image.mapError .capture, device)

/-- Presents the frame, if one was begun. -/
def endFrame (device : Recorder) : Recorder :=
  let idle := { device with bound := none, isInFrame := false }
  if device.isInFrame then idle.recordAll [.submit, .present] else idle

instance : Device Recorder where
  StageObject := Stage
  Program := Program
  Slot := Uniform.Slot
  compile := compile
  releaseStage device _ := device
  link := link
  releaseProgram device program := device.record (.destroyBuffer program.buffer)
  slot? _ program name := program.layout.slot? name
  viewport device := device.configuration.size
  beginFrame := beginFrame
  bindProgram := bindProgram
  setUniform := setUniform
  draw := draw
  capture := capture
  endFrame := endFrame

end Recorder

end LiveShader.Gpu
