import LiveShader.Files.Tree
import LiveShader.Session.Reload
import LiveShader.Window.CaptureName
import LiveShader.Window.Message
import LiveShader.Window.Title

/-!
# The host of a window

The host owns the player, the device that it plays on and the frames that wait for
the next redraw.  Commands and events change it one at a time.  After a build that
failed the host presents a blank frame, so that nothing of the last program stays
on the screen.  A build that does not return breaks the host.
-/

namespace LiveShader.Window

open LiveShader.Session

/-- A device whose target follows the size of a window. -/
class Resizable (δ : Type) where
  /-- Fits the target to a size of the window. -/
  resize : δ → Size → δ

/-- What surrounds the host when a frame is drawn. -/
structure Surroundings where
  files : Files.Tree
  now : Playback.Instant
  /-- The time of day, for the names of captured images. -/
  clock : Calendar.Timestamp

/-- The host of a window. -/
structure Host (δ : Type) [Device δ] where
  player : Player δ
  device : δ
  /-- The frames that wait for the next redraw. -/
  waiting : List Ticket
  /-- The redraws asked for since the last one. -/
  redraws : Nat
  title : String
  /-- The text with which the title begins. -/
  baseTitle : String
  captureDirectory : Files.Path
  /-- The readout that the title shows. -/
  readout : Option Playback.Readout
  /-- The signals that were not taken yet, the oldest first. -/
  signals : List Signal
  /-- Whether the window is to close. -/
  isClosing : Bool
  /-- Whether a build did not return, after which nothing is handled any more. -/
  isBroken : Bool

/--
Saves an image in a directory, which is made if it is missing.  The files are those
after the attempt, whether or not it succeeds.
-/
def saveCapture (surroundings : Surroundings) (directory : Files.Path) (image : Image) :
    Files.Tree × Except String Files.Path :=
  match surroundings.files.makeDirectories directory with
  | (files, some cause) =>
      (files,
        .error ("failed to create capture directory " ++ directory ++ ": " ++ cause.message))
  | (files, none) =>
      let path := Files.Path.join directory (captureName surroundings.clock)
      match files.write path (.image image) with
      | .error cause => (files, .error ("failed to write " ++ path ++ ": " ++ cause.message))
      | .ok files => (files, .ok path)

namespace Host

variable {δ : Type} [Device δ]

/-- A host that has done nothing yet. -/
def start (device : δ) (title : String) (paused : Bool) (captureDirectory : Files.Path) :
    Host δ :=
  { player := .start (.start (Device.viewport device) paused) .standard
    device := device
    waiting := []
    redraws := 0
    title := title
    baseTitle := title
    captureDirectory := captureDirectory
    readout := none
    signals := []
    isClosing := false
    isBroken := false }

/-- Adds a signal. -/
def signal (host : Host δ) (signal : Signal) : Host δ :=
  { host with signals := host.signals ++ [signal] }

/-- Closes the window once the present event is handled. -/
def close (host : Host δ) : Host δ := { host with isClosing := true }

/-- Lets a frame wait for the next redraw and asks for one. -/
def schedule (host : Host δ) (ticket : Ticket) : Host δ :=
  { host with waiting := host.waiting ++ [ticket], redraws := host.redraws + 1 }

/-- Shows the last error, or else the last readout. -/
def refreshTitle (host : Host δ) : Host δ :=
  { host with
    title :=
      Window.title host.baseTitle host.readout
        (host.player.lastError.map Program.BuildError.message) }

/-- Changes the inputs of the player. -/
def mapInputs (host : Host δ) (change : Playback.Inputs → Playback.Inputs) : Host δ :=
  { host with player := host.player.mapInputs change }

/-- Clears the screen once, if a frame can be had. -/
def presentBlank (host : Host δ) : Host δ :=
  match Device.beginFrame host.device with
  | (.ok _, device) => { host with device := Device.endFrame device }
  | (.error _, device) => { host with device := device }

/-- Shows that the program was replaced. -/
def refresh (host : Host δ) : Host δ := { host with readout := none }.refreshTitle

/-- Replaces the running program. -/
def load (host : Host δ) (source : String) (controls : List Control.Spec) : Host δ :=
  let reloaded := host.player.reload host.device source controls
  let host := { host with player := reloaded.player, device := reloaded.device }
  match reloaded.result with
  | .ok ticket => ((host.schedule ticket).signal .loaded).refresh
  | .error (.refused error) => (host.presentBlank.signal (.buildFailed error.report)).refresh
  | .error .overflow => { host with isBroken := true }

/-- Sets a control from text; a refusal is reported. -/
def setControl (host : Host δ) (name raw : String) : Host δ :=
  match host.player.inputs.setControlText name raw with
  | .ok inputs => host.mapInputs fun _ => inputs
  | .error error => host.signal (.controlRejected error.message)

/-- Handles a command. -/
def handleCommand (host : Host δ) : Command → Host δ
  | .load source controls => host.load source controls
  | .pause => host.mapInputs (·.setPaused true)
  | .resume => host.mapInputs (·.setPaused false)
  | .togglePaused => host.mapInputs (·.togglePaused)
  | .resetTime => host.mapInputs (·.request .reset)
  | .capture => host.mapInputs (·.request .capture)
  | .setControl name raw => host.setControl name raw
  | .shutdown => host.close

/-- Handles a key that writes text. -/
def handleCharacter (host : Host δ) (text : String) : Host δ :=
  match text with
  | "r" | "R" => host.mapInputs (·.request .reset)
  | "s" | "S" => host.mapInputs (·.request .capture)
  | " " => host.mapInputs (·.togglePaused)
  | _ => host

/-- Handles a key; only the moment at which it goes down counts. -/
def handleKey (host : Host δ) (stroke : KeyStroke) : Host δ :=
  if !stroke.isDown || stroke.isRepeated then host
  else
    match stroke.key with
    | .space => host.mapInputs (·.togglePaused)
    | .f12 => host.mapInputs (·.request .capture)
    | .escape => host.close
    | .character text => host.handleCharacter text
    | .other => host

/-- Fits the device and the inputs to a size; one without points is ignored. -/
def resize [Resizable δ] (host : Host δ) (size : Size) : Host δ :=
  if size.width = 0 ∨ size.height = 0 then host
  else
    { host with device := Resizable.resize host.device size }.mapInputs (·.setViewport size)

/-- Shows a readout, if there is one. -/
def showReadout (host : Host δ) : Option Playback.Readout → Host δ
  | some readout => { host with readout := some readout }.refreshTitle
  | none => host

/-- Saves what was captured, if anything was, and reports it. -/
def finishCapture (host : Host δ) (surroundings : Surroundings) :
    Option (Except Device.FrameError Image) → Host δ × Files.Tree
  | none => (host, surroundings.files)
  | some (.error error) => (host.signal (.captureFailed error.message), surroundings.files)
  | some (.ok image) =>
      match saveCapture surroundings host.captureDirectory image with
      | (files, .ok path) => (host.signal (.captured path), files)
      | (files, .error cause) => (host.signal (.captureFailed cause), files)

/-- Reports what became of a frame.  Without memory the window closes. -/
def finishFrame (host : Host δ) (surroundings : Surroundings) : Outcome → Host δ × Files.Tree
  | .rendered report => (host.showReadout report.readout).finishCapture surroundings report.capture
  | .skipped .outOfMemory => (host.close, surroundings.files)
  | .skipped _ | .cancelled => (host, surroundings.files)

/-- Runs one frame. -/
def runTicket (host : Host δ) (surroundings : Surroundings) (ticket : Ticket) :
    Host δ × Files.Tree :=
  let ran := host.player.runFrame host.device ticket surroundings.now
  let host := { host with player := ran.player, device := ran.device }
  let host :=
    match ran.scheduled with
    | some next => host.schedule next
    | none => host
  host.finishFrame surroundings ran.outcome

/-- Runs frames one after the other. -/
def runTickets (host : Host δ) (surroundings : Surroundings) :
    List Ticket → Host δ × Files.Tree
  | [] => (host, surroundings.files)
  | ticket :: rest =>
      let (host, files) := host.runTicket surroundings ticket
      host.runTickets { surroundings with files := files } rest

/-- Runs the frames that wait; those that they schedule wait for the next redraw. -/
def redraw (host : Host δ) (surroundings : Surroundings) : Host δ × Files.Tree :=
  { host with waiting := [], redraws := 0 }.runTickets surroundings host.waiting

/-- Handles an event. -/
def handleEvent [Resizable δ] (host : Host δ) (surroundings : Surroundings) :
    Event → Host δ × Files.Tree
  | .keyboard stroke => (host.handleKey stroke, surroundings.files)
  | .pointerMoved x y => (host.mapInputs (·.setPointer x y), surroundings.files)
  | .resized size => (host.resize size, surroundings.files)
  | .redrawRequested => host.redraw surroundings
  | .closeRequested | .destroyed => (host.close, surroundings.files)
  | .other => (host, surroundings.files)

/-- Ends the session and reports that the window is closed. -/
def finish (host : Host δ) : Host δ :=
  let (player, device) := host.player.shutdown host.device
  { host with player := player, device := device }.signal .closed

end Host

end LiveShader.Window
