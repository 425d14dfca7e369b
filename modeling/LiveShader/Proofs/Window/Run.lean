import LiveShader.Proofs.Device.Journal
import LiveShader.Proofs.Session.Run
import LiveShader.Window.Host

/-!
# Runs of a window's host

A host handles commands and events, which load programs, change the inputs and run the
frames that wait.  A run is a list of such acts in any order.  Of all that a host keeps,
only the player, its device and the waiting frames decide how the player goes on; what
each act does to these three is said here once.
-/

namespace LiveShader.Window

open LiveShader.Device LiveShader.Session

variable {δ : Type} [Device δ]

/-- What can be asked of a host. -/
inductive Act where
  | command (command : Command)
  | event (surroundings : Surroundings) (event : Event)
  /-- Takes the frame at a place of the queue and runs it. -/
  | runWaiting (place : Nat) (surroundings : Surroundings)
  /-- Reloads the player and clears nothing if that fails. -/
  | reload (source : String) (controls : List Control.Spec)
  | finish

/-- Whether an act is a reload or a shutdown. -/
def Act.endsSession : Act → Bool
  | .command (.load ..) | .reload .. | .finish => true
  | .command _ | .event .. | .runWaiting .. => false

instance [Resizable δ] : Resizable (Journaled δ) where
  resize journaled size := { journaled with device := Resizable.resize journaled.device size }

namespace Host

/-- A host whose player had no session yet. -/
def anew (host : Host δ) (player : Player δ) (device : δ) : Host δ :=
  { host with player := player, device := device, waiting := [] }

/-- The host after the player was reloaded. -/
def reload (host : Host δ) (source : String) (controls : List Control.Spec) : Host δ :=
  let reloaded := host.player.reload host.device source controls
  { host with
    player := reloaded.player
    device := reloaded.device
    waiting := host.waiting ++ reloaded.result.toOption.toList }

/-- The host after one waiting frame was run. -/
def runWaiting (host : Host δ) (place : Nat) (surroundings : Surroundings) : Host δ :=
  match host.waiting[place]? with
  | some ticket =>
      ({ host with waiting := host.waiting.eraseIdx place }.runTicket surroundings ticket).1
  | none => host

variable [Resizable δ]

def perform (host : Host δ) : Act → Host δ
  | .command command => host.handleCommand command
  | .event surroundings event => (host.handleEvent surroundings event).1
  | .runWaiting place surroundings => host.runWaiting place surroundings
  | .reload source controls => host.reload source controls
  | .finish => host.finish

def performAll (host : Host δ) (acts : List Act) : Host δ := acts.foldl perform host

end Host

/-! ## What decides how a player goes on -/

/-- Hosts with the same player, device and waiting frames. -/
structure Host.Same (left right : Host δ) : Prop where
  player : left.player = right.player
  device : left.device = right.device
  waiting : left.waiting = right.waiting

namespace Host

theorem Same.trans {first second third : Host δ} (left : first.Same second)
    (right : second.Same third) : first.Same third :=
  ⟨left.player.trans right.player, left.device.trans right.device,
    left.waiting.trans right.waiting⟩

theorem same_finishCapture (host : Host δ) (surroundings : Surroundings)
    (capture : Option (Except FrameError Image)) :
    (host.finishCapture surroundings capture).1.Same host := by
  rw [finishCapture.eq_def]
  split
  · exact ⟨rfl, rfl, rfl⟩
  · exact ⟨rfl, rfl, rfl⟩
  · split <;> exact ⟨rfl, rfl, rfl⟩

theorem same_finishFrame (host : Host δ) (surroundings : Surroundings) (outcome : Outcome) :
    (host.finishFrame surroundings outcome).1.Same host := by
  rw [finishFrame.eq_def]
  split
  · rename_i report
    refine (same_finishCapture _ surroundings report.capture).trans ?_
    cases report.readout <;> exact ⟨rfl, rfl, rfl⟩
  · exact ⟨rfl, rfl, rfl⟩
  · exact ⟨rfl, rfl, rfl⟩
  · exact ⟨rfl, rfl, rfl⟩

/-- A frame leaves what it made of the player and the device, and the next frame waits. -/
theorem same_runTicket (host : Host δ) (surroundings : Surroundings) (ticket : Ticket) :
    (host.runTicket surroundings ticket).1.Same
      { host with
        player := (host.player.runFrame host.device ticket surroundings.now).player
        device := (host.player.runFrame host.device ticket surroundings.now).device
        waiting := host.waiting ++
          (host.player.runFrame host.device ticket surroundings.now).scheduled.toList } := by
  rw [runTicket]
  rcases host.player.runFrame host.device ticket surroundings.now with
    ⟨player, device, outcome, _ | next⟩
  · exact (same_finishFrame _ surroundings outcome).trans
      ⟨rfl, rfl, (List.append_nil _).symm⟩
  · exact (same_finishFrame _ surroundings outcome).trans ⟨rfl, rfl, rfl⟩

/-- A load is a reload, and a blank frame after it if that returns an error. -/
theorem same_load (host : Host δ) (source : String) (controls : List Control.Spec) :
    (host.load source controls).Same
      (match (host.player.reload host.device source controls).result with
        | .ok _ | .error .overflow => host.reload source controls
        | .error (.refused _) => (host.reload source controls).presentBlank) := by
  simp only [load, reload]
  split
  · rename_i ticket result
    rw [result]
    exact ⟨rfl, rfl, rfl⟩
  · rename_i error result
    rw [result]
    simp only [presentBlank]
    split <;> exact ⟨rfl, rfl, (List.append_nil _).symm⟩
  · rename_i result
    rw [result]
    exact ⟨rfl, rfl, (List.append_nil _).symm⟩

/-- A command loads a program or changes at most the inputs. -/
theorem handleCommand_cases (host : Host δ) (command : Command) :
    (∃ source controls, command = .load source controls) ∨
      ∃ change, (host.handleCommand command).Same (host.mapInputs change) := by
  cases command with
  | load source controls => exact Or.inl ⟨source, controls, rfl⟩
  | setControl name raw =>
      refine Or.inr ?_
      rw [handleCommand, setControl]
      split
      · rename_i inputs _
        exact ⟨fun _ => inputs, rfl, rfl, rfl⟩
      · exact ⟨id, rfl, rfl, rfl⟩
  | shutdown => exact Or.inr ⟨id, rfl, rfl, rfl⟩
  | _ => exact Or.inr ⟨_, rfl, rfl, rfl⟩

theorem handleKey_cases (host : Host δ) (stroke : KeyStroke) :
    ∃ change, (host.handleKey stroke).Same (host.mapInputs change) := by
  rw [handleKey]
  split
  · exact ⟨id, rfl, rfl, rfl⟩
  · split
    · exact ⟨_, rfl, rfl, rfl⟩
    · exact ⟨_, rfl, rfl, rfl⟩
    · exact ⟨id, rfl, rfl, rfl⟩
    · rw [handleCharacter.eq_def]
      split
      · exact ⟨_, rfl, rfl, rfl⟩
      · exact ⟨_, rfl, rfl, rfl⟩
      · exact ⟨_, rfl, rfl, rfl⟩
      · exact ⟨_, rfl, rfl, rfl⟩
      · exact ⟨_, rfl, rfl, rfl⟩
      · exact ⟨id, rfl, rfl, rfl⟩
    · exact ⟨id, rfl, rfl, rfl⟩

/-- An event runs the waiting frames, resizes the device, or changes at most the inputs. -/
theorem handleEvent_cases [Resizable δ] (host : Host δ) (surroundings : Surroundings)
    (event : Event) :
    event = .redrawRequested ∨
      (∃ size change, (host.handleEvent surroundings event).1.Same
        ({ host with device := Resizable.resize host.device size }.mapInputs change)) ∨
      ∃ change, (host.handleEvent surroundings event).1.Same (host.mapInputs change) := by
  cases event with
  | redrawRequested => exact Or.inl rfl
  | resized size =>
      refine Or.inr ?_
      simp only [handleEvent, resize]
      split
      · exact Or.inr ⟨id, rfl, rfl, rfl⟩
      · exact Or.inl ⟨size, _, rfl, rfl, rfl⟩
  | keyboard stroke => exact Or.inr (Or.inr (host.handleKey_cases stroke))
  | pointerMoved x y => exact Or.inr (Or.inr ⟨_, rfl, rfl, rfl⟩)
  | closeRequested => exact Or.inr (Or.inr ⟨id, rfl, rfl, rfl⟩)
  | destroyed => exact Or.inr (Or.inr ⟨id, rfl, rfl, rfl⟩)
  | other => exact Or.inr (Or.inr ⟨id, rfl, rfl, rfl⟩)

end Host

end LiveShader.Window
