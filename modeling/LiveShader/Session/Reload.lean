import LiveShader.Program.Build
import LiveShader.Session.Frame

/-!
# Reloading

At most one session is installed.  A reload ends it, hands its program back and
installs a session for the program built from the new source; when the build
fails, no session is installed.  A build that does not return ends the reload where it
stands, with the old session ended and nothing put in its place.  A frame runs only for
the installed session, so tickets of earlier sessions have no effect.

What it takes to end a session is a list of effects, which are performed one after the
other: the tickets are cancelled before the program is handed back.
-/

namespace LiveShader.Session

open LiveShader.Playback

variable {δ : Type} [Device δ]

variable (δ) in
/-- What the end of a session does to what is around it. -/
inductive Effect where
  /-- The tickets of a session are cancelled. -/
  | cancel (session : Id)
  /-- A program is handed back to the device. -/
  | release (program : Device.Program δ)

/-- Ends a session: cancels its tickets, then hands its program back. -/
def teardown (session : Session δ) : List (Effect δ) :=
  [.cancel session.id, .release session.program]

/-- The installed session and what outlives it. -/
structure Player (δ : Type) [Device δ] where
  session : Option (Session δ)
  inputs : Inputs
  builtins : Program.BuiltinNames
  /-- The number of the next session. -/
  nextSession : Id
  /-- The sessions that were ended. -/
  cancelled : List Id
  /-- The error of the last build, if it failed. -/
  lastError : Option Program.BuildError

namespace Player

/-- No session yet. -/
def start (inputs : Inputs) (builtins : Program.BuiltinNames) : Player δ :=
  ⟨none, inputs, builtins, 1, [], none⟩

/-- Whether a session is installed. -/
def hasSession (player : Player δ) : Bool := player.session.isSome

/-- Whether the session of a ticket has not been ended. -/
def isLive (player : Player δ) (ticket : Ticket) : Bool :=
  !player.cancelled.contains ticket.session

/-- Changes what the host may change. -/
def mapInputs (player : Player δ) (change : Inputs → Inputs) : Player δ :=
  { player with inputs := change player.inputs }

/-- Performs an effect. -/
def perform (player : Player δ) (device : δ) : Effect δ → Player δ × δ
  | .cancel session => ({ player with cancelled := session :: player.cancelled }, device)
  | .release program => (player, Device.releaseProgram device program)

/-- Performs effects one after the other. -/
def performAll (player : Player δ) (device : δ) : List (Effect δ) → Player δ × δ
  | [] => (player, device)
  | effect :: rest =>
      let (player, device) := player.perform device effect
      player.performAll device rest

/-- What it takes to end the installed session. -/
def ending (player : Player δ) : List (Effect δ) :=
  match player.session with
  | none => []
  | some session => session.teardown

/-- Ends the installed session, if there is one. -/
def teardown (player : Player δ) (device : δ) : Player δ × δ :=
  { player with session := none }.performAll device player.ending

/-- Ends the installed session. -/
def shutdown (player : Player δ) (device : δ) : Player δ × δ := player.teardown device

/-- Installs a session for a program. -/
def install (player : Player δ) (device : δ) (program : Device.Program δ)
    (controls : List Control.Spec) : Player δ × Ticket :=
  let bindings := Program.Bindings.resolve device program player.builtins controls
  let session : Session δ := ⟨player.nextSession, program, bindings, .unstarted⟩
  ({ player with
      session := some session
      inputs := player.inputs.installControls controls
      nextSession := player.nextSession + 1
      lastError := none },
    session.ticket)

/-- What a reload leaves behind. -/
structure Reloaded (δ : Type) [Device δ] where
  player : Player δ
  device : δ
  /-- The first frame of the new session, or why there is none. -/
  result : Except (Halt Program.BuildError) Ticket

/-- The player when there is no program: an error is kept, and the controls are gone. -/
def failed (player : Player δ) : Halt Program.BuildError → Player δ
  | .refused error =>
      { player with inputs := player.inputs.installControls [], lastError := some error }
  | .overflow => player

/--
Ends the installed session and installs one for a new source.  The values of the
controls start at their defaults, or are gone if the build fails.
-/
def reload (player : Player δ) (device : δ) (source : String) (controls : List Control.Spec) :
    Reloaded δ :=
  let (player, device) := player.teardown device
  match Program.build device source with
  | (.error halt, device) => ⟨player.failed halt, device, .error halt⟩
  | (.ok program, device) =>
      let (player, ticket) := player.install device program controls
      ⟨player, device, .ok ticket⟩

/-- What a ticket leaves behind. -/
structure Ran (δ : Type) [Device δ] where
  player : Player δ
  device : δ
  outcome : Outcome
  /-- The next frame, unless the ticket was cancelled. -/
  scheduled : Option Ticket

/-- Runs the frame of a ticket at an instant. -/
def runFrame (player : Player δ) (device : δ) (ticket : Ticket) (now : Instant) : Ran δ :=
  match player.session with
  | none => ⟨player, device, .cancelled, none⟩
  | some session =>
      if player.isLive ticket ∧ ticket.session = session.id then
        let step := session.frame device player.inputs now
        ⟨{ player with session := some step.session, inputs := step.inputs },
          step.device, step.outcome, some step.session.ticket⟩
      else ⟨player, device, .cancelled, none⟩

end Player

end LiveShader.Session
