import LiveShader.Gpu.Recorder
import LiveShader.Window.Host

/-!
# The life of a window

Opening a window takes several steps that may fail, the last of which configure
the surface of its device.  An open window handles commands and events until one of
them closes it or breaks its host; from then on it takes neither.  A broken host reports
nothing more.
-/

namespace LiveShader.Window

/-- What a window starts with. -/
structure Config where
  /-- The first size of the window. -/
  size : Size
  /-- Whether the timeline starts in a pause. -/
  startPaused : Bool
  captureDirectory : Files.Path
  /-- The text with which the title begins. -/
  title : String
  deriving Repr, DecidableEq

/-- The settings of a window that no one chose. -/
def Config.default : Config := ⟨⟨1280, 720⟩, false, ".", "Shader Workshop"⟩

/-- What fails when a window is opened or run. -/
inductive Fault where
  | eventLoop (cause : String)
  | window (cause : String)
  | windowHandle
  | displayHandle
  | surface (cause : String)
  | adapter (cause : String)
  | device (cause : String)
  /-- The window opens, and its event loop ends with an error. -/
  | run (cause : String)
  /-- The window opens, and its host breaks. -/
  | broken
  deriving Repr, DecidableEq

/-- The fault at a point that has a name, with its cause. -/
def Fault.atPoint? (point cause : String) : Option Fault :=
  match point with
  | "event_loop" => some (.eventLoop cause)
  | "window" => some (.window cause)
  | "window_handle" => some .windowHandle
  | "display_handle" => some .displayHandle
  | "surface" => some (.surface cause)
  | "adapter" => some (.adapter cause)
  | "device" => some (.device cause)
  | "run" => some (.run cause)
  | _ => none

/-- What the system offers to a window. -/
structure Platform where
  /-- The size that the window gets, if not the one it asks for. -/
  innerSize : Option Size
  surface : Gpu.Capabilities
  fault : Option Fault
  deriving Repr, DecidableEq

/-- A system that fails nowhere. -/
def Platform.plain : Platform := ⟨none, ⟨[.rgba8], [.fifo], [.automatic]⟩, none⟩

/-- Why a window was not opened. -/
inductive OpenError where
  /-- A step failed. -/
  | failed (fault : Fault)
  | noFormat
  deriving Repr, DecidableEq

/-- What the window itself lacks for a device. -/
def windowProblem (cause : String) : String :=
  "failed to initialise graphics device: window setup failed: " ++ cause

/-- What the graphics hardware lacks. -/
def deviceProblem (cause : String) : String :=
  "failed to initialise graphics device: graphics device unavailable: " ++ cause

/-- The wording of a fault. -/
def Fault.message : Fault → String
  | .eventLoop cause => "failed to create event loop: " ++ cause
  | .window cause => "failed to create window: " ++ cause
  | .windowHandle =>
      windowProblem "failed to acquire window handle: the underlying handle is not available"
  | .displayHandle =>
      windowProblem ("failed to acquire display handle: the underlying handle cannot be " ++
        "represented using the types in this crate")
  | .surface cause => deviceProblem ("failed to create surface: " ++ cause)
  | .adapter cause => deviceProblem ("no suitable GPU adapter: " ++ cause)
  | .device cause => deviceProblem ("failed to create GPU device: " ++ cause)
  | .run cause => "window event loop error: " ++ cause
  | .broken => "window thread panicked: Any \x7b .. \x7d"

/-- The wording of an error. -/
def OpenError.message : OpenError → String
  | .failed fault => fault.message
  | .noFormat => deviceProblem "surface reports no supported formats"

/-- The fault that keeps a window from being opened. -/
def Platform.openFault? (platform : Platform) : Option Fault :=
  match platform.fault with
  | some (.run _) | some .broken | none => none
  | some fault => some fault

/-- The fault with which the event loop ends. -/
def Platform.runFault? (platform : Platform) : Option Fault :=
  match platform.fault with
  | some (.run cause) => some (.run cause)
  | _ => none

/-- A window with its host. -/
structure Runtime (δ : Type) [Device δ] where
  host : Host δ
  hasEnded : Bool
  /-- The fault with which the event loop ends. -/
  fault : Option Fault

namespace Runtime

variable {δ : Type} [Device δ]

/-- Opens a window on a system. -/
def launch (platform : Platform) (config : Config) :
    Except OpenError (Runtime Gpu.Recorder) :=
  match platform.openFault? with
  | some fault => .error (.failed fault)
  | none =>
      let asked := Gpu.Capabilities.atLeastOne config.size
      match platform.surface.configuration? (platform.innerSize.getD asked) with
      | none => .error .noFormat
      | some configuration =>
          let device := Gpu.Recorder.ofConfiguration configuration
          let host := Host.start device config.title config.startPaused config.captureDirectory
          .ok ⟨host, false, platform.runFault?⟩

/-- Ends the window if its host is broken or wants to close. -/
def settle (runtime : Runtime δ) (host : Host δ) : Runtime δ :=
  if host.isBroken then { host := host, hasEnded := true, fault := some .broken }
  else if host.isClosing then { runtime with host := host.finish, hasEnded := true }
  else { runtime with host := host }

/-- Hands a command to the window; nothing when the window has ended. -/
def send? (runtime : Runtime δ) (command : Command) : Option (Runtime δ) :=
  if runtime.hasEnded then none else some (runtime.settle (runtime.host.handleCommand command))

/-- Hands an event to the window; nothing when the window has ended. -/
def deliver? [Resizable δ] (runtime : Runtime δ) (surroundings : Surroundings)
    (event : Event) : Option (Runtime δ × Files.Tree) :=
  if runtime.hasEnded then none
  else
    let (host, files) := runtime.host.handleEvent surroundings event
    some (runtime.settle host, files)

/-- Takes the signals that were not taken yet. -/
def takeSignals (runtime : Runtime δ) : List Signal × Runtime δ :=
  (runtime.host.signals, { runtime with host := { runtime.host with signals := [] } })

/-- Closes the window, if it is open. -/
def shutdown (runtime : Runtime δ) : Runtime δ := (runtime.send? .shutdown).getD runtime

/-- The wording of a command that came too late. -/
def endedMessage : String := "window thread is no longer running"

end Runtime

instance : Resizable Gpu.Recorder where
  resize := Gpu.Recorder.resize

end LiveShader.Window
