import LiveShader.Session.Reload

/-!
# Scheduled frames

A schedule keeps the frames that a player asked for until they are run.  Running
the frames that wait may schedule others, which wait for the next time.
-/

namespace LiveShader.Session

open LiveShader.Playback

variable {δ : Type} [Device δ]

/-- A player with its device and the frames that it asked for. -/
structure Schedule (δ : Type) [Device δ] where
  player : Player δ
  device : δ
  /-- The frames that wait, the oldest first. -/
  queue : List Ticket
  /-- All frames that were ever scheduled, the oldest first. -/
  issued : List Ticket

namespace Schedule

/-- A schedule before the first reload. -/
def start (player : Player δ) (device : δ) : Schedule δ := ⟨player, device, [], []⟩

/-- Lets a frame wait. -/
def add (schedule : Schedule δ) (ticket : Ticket) : Schedule δ :=
  { schedule with
    queue := schedule.queue ++ [ticket]
    issued := schedule.issued ++ [ticket] }

/-- Changes what the host may change. -/
def mapInputs (schedule : Schedule δ) (change : Inputs → Inputs) : Schedule δ :=
  { schedule with player := schedule.player.mapInputs change }

/-- Reloads the player and schedules the first frame, or says why there is none. -/
def reload (schedule : Schedule δ) (source : String) (controls : List Control.Spec) :
    Option (Halt Program.BuildError) × Schedule δ :=
  let reloaded := schedule.player.reload schedule.device source controls
  let schedule := { schedule with player := reloaded.player, device := reloaded.device }
  match reloaded.result with
  | .ok ticket => (none, schedule.add ticket)
  | .error halt => (some halt, schedule)

/-- Runs one frame. -/
def runTicket (schedule : Schedule δ) (now : Instant) (ticket : Ticket) :
    Outcome × Schedule δ :=
  let ran := schedule.player.runFrame schedule.device ticket now
  let schedule := { schedule with player := ran.player, device := ran.device }
  match ran.scheduled with
  | some next => (ran.outcome, schedule.add next)
  | none => (ran.outcome, schedule)

/-- Runs frames one after the other. -/
def runTickets (schedule : Schedule δ) (now : Instant) :
    List Ticket → List Outcome × Schedule δ
  | [] => ([], schedule)
  | ticket :: rest =>
      let (outcome, schedule) := schedule.runTicket now ticket
      let (outcomes, schedule) := schedule.runTickets now rest
      (outcome :: outcomes, schedule)

/-- Runs all frames that wait. -/
def pump (schedule : Schedule δ) (now : Instant) : List Outcome × Schedule δ :=
  { schedule with queue := [] }.runTickets now schedule.queue

/-- Ends the session of the player. -/
def shutdown (schedule : Schedule δ) : Schedule δ :=
  let (player, device) := schedule.player.shutdown schedule.device
  { schedule with player := player, device := device }

end Schedule

end LiveShader.Session
