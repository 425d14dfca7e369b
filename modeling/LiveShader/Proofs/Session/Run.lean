import LiveShader.Session.Schedule
import LiveShader.Proofs.Playback.PlayedTime
import Mathlib.Data.List.Induction

/-!
# Runs of a player

A host changes the inputs, reloads, runs frames and shuts down, in any order and
as often as it likes.  A run is the list of these requests, served one after the
other.  Frames may be asked for under any ticket; a ticket is accepted when its
session is installed and was not cancelled, and a rejected one leaves everything
as it is.

Every accepted frame is recorded with the timeline, the inputs and the instant it
ran with, whether or not its target could be acquired.
-/

namespace LiveShader.Session

open LiveShader.Playback

variable {δ : Type} [Device δ]

/-! ## Frames -/

/-- A frame moves the timeline of its session and nothing else of it. -/
theorem frame_session (session : Session δ) (device : δ) (inputs : Inputs) (now : Instant) :
    (session.frame device inputs now).session =
      { session with
        timeline := (session.timeline.advance now inputs.paused inputs.pending).2.1 } := by
  rw [Session.frame]
  split
  rename_i sample timeline pending equal
  rw [equal]
  split <;> rfl

/-- The device when a frame was drawn: the program is bound and its uniforms are written. -/
def drawn (session : Session δ) (device : δ) (inputs : Inputs) (sample : Sample) : δ :=
  Device.draw (session.bindings.upload (Device.bindProgram device session.program)
    (frameUniforms (Device.viewport device) sample.elapsed inputs) inputs.controls)

/-- What a rendered frame reports, and what it does after it has drawn. -/
theorem frame_of_rendered {session : Session δ} {device : δ} {inputs : Inputs} {now : Instant}
    {report : Report} (rendered : (session.frame device inputs now).outcome = .rendered report) :
    let sample := (session.timeline.advance now inputs.paused inputs.pending).1
    ∃ begun, Device.beginFrame device = (.ok (), begun) ∧
      let shot := captureIfAsked (drawn session begun inputs sample) inputs.pending.capture
      report = ⟨sample.elapsed, sample.readout, shot.1⟩ ∧
        (session.frame device inputs now).device = Device.endFrame shot.2 := by
  rw [Session.frame] at rendered ⊢
  rcases began : Device.beginFrame device with ⟨error | _, begun⟩
  · rw [began] at rendered
    cases rendered
  · rw [began] at rendered
    cases rendered
    exact ⟨begun, rfl, rfl, rfl⟩

/-- A frame uses up the waiting actions, and a capture only when it is drawn. -/
theorem frame_inputs (session : Session δ) (device : δ) (inputs : Inputs) (now : Instant) :
    ((∃ error, (session.frame device inputs now).outcome = .skipped error) ∧
        (session.frame device inputs now).inputs =
          { inputs with pending := Timeline.remaining inputs.pending }) ∨
      (∃ report, (session.frame device inputs now).outcome = .rendered report) ∧
        (session.frame device inputs now).inputs =
          { inputs with pending := (Timeline.remaining inputs.pending).drop .capture } := by
  rw [← Timeline.advance_pending session.timeline now inputs.paused inputs.pending]
  rw [Session.frame]
  split
  rename_i sample timeline pending equal
  rw [equal]
  split
  · exact Or.inl ⟨⟨_, rfl⟩, rfl⟩
  · exact Or.inr ⟨⟨_, rfl⟩, rfl⟩

/-- After a frame the waiting actions fit the flag that it saw. -/
theorem frame_inputs_matches (session : Session δ) (device : δ) (inputs : Inputs)
    (now : Instant) : (session.frame device inputs now).inputs.Matches inputs.paused := by
  have fits := Timeline.matches_remaining inputs.pending inputs.paused
  rcases frame_inputs session device inputs now with ⟨_, equal⟩ | ⟨_, equal⟩
  · rw [equal]
    exact fits
  · rw [equal]
    exact ⟨fits.pause, fits.resume⟩

/-! ## Accepted tickets -/

namespace Player

/-- The installed session, if it accepts a ticket. -/
def accepting? (player : Player δ) (ticket : Ticket) : Option (Session δ) :=
  match player.session with
  | none => none
  | some session =>
      if player.isLive ticket ∧ ticket.session = session.id then some session else none

theorem rejecting_of_absent {player : Player δ} (absent : player.session = none)
    (ticket : Ticket) : player.accepting? ticket = none := by
  rw [accepting?, absent]

theorem session_of_accepting {player : Player δ} {ticket : Ticket} {session : Session δ}
    (accepted : player.accepting? ticket = some session) :
    player.session = some session := by
  rw [accepting?] at accepted
  split at accepted
  · cases accepted
  · rename_i installed present
    split at accepted
    · rw [present, accepted]
    · cases accepted

theorem runFrame_of_accepting {player : Player δ} {ticket : Ticket} {session : Session δ}
    (accepted : player.accepting? ticket = some session) (device : δ) (now : Instant) :
    player.runFrame device ticket now =
      let step := session.frame device player.inputs now
      ⟨{ player with session := some step.session, inputs := step.inputs },
        step.device, step.outcome, some step.session.ticket⟩ := by
  have present := session_of_accepting accepted
  rw [accepting?] at accepted
  rw [present] at accepted
  split at accepted
  · rename_i installed equal
    cases equal
  · rename_i installed equal
    cases equal
    split at accepted
    · rename_i live
      simp only [runFrame, present, if_pos live]
    · cases accepted

/-- A rejected ticket leaves the player and the device as they are. -/
theorem runFrame_of_rejecting {player : Player δ} {ticket : Ticket}
    (rejected : player.accepting? ticket = none) (device : δ) (now : Instant) :
    player.runFrame device ticket now = ⟨player, device, .cancelled, none⟩ := by
  rw [accepting?] at rejected
  rw [runFrame]
  cases present : player.session with
  | none => rfl
  | some session =>
      rw [present] at rejected
      exact if_neg fun live => Option.some_ne_none session ((if_pos live).symm.trans rejected)

/-- A frame that is rendered is one of a session that accepts its ticket. -/
theorem exists_accepting_of_rendered {player : Player δ} {device : δ} {ticket : Ticket}
    {now : Instant} {report : Report}
    (rendered : (player.runFrame device ticket now).outcome = .rendered report) :
    ∃ session, player.accepting? ticket = some session ∧
      (session.frame device player.inputs now).outcome = .rendered report := by
  cases accepted : player.accepting? ticket with
  | none =>
      rw [runFrame_of_rejecting accepted] at rendered
      cases rendered
  | some session =>
      rw [runFrame_of_accepting accepted] at rendered
      exact ⟨session, rfl, rendered⟩

/-! ## What becomes of the player -/

/-- The player when its session, if it has one, is over. -/
def ended (player : Player δ) : Player δ :=
  { player with
    session := none
    cancelled := (player.session.map Session.id).toList ++ player.cancelled }

@[simp]
theorem ended_session (player : Player δ) : player.ended.session = none := rfl

@[simp]
theorem ended_inputs (player : Player δ) : player.ended.inputs = player.inputs := rfl

@[simp]
theorem ended_nextSession (player : Player δ) : player.ended.nextSession = player.nextSession := rfl

@[simp]
theorem ended_builtins (player : Player δ) : player.ended.builtins = player.builtins := rfl

@[simp]
theorem ended_lastError (player : Player δ) : player.ended.lastError = player.lastError := rfl

/-- A teardown hands back the program of the installed session, if there is one. -/
theorem teardown_eq (player : Player δ) (device : δ) :
    player.teardown device =
      (player.ended,
        match player.session with
        | none => device
        | some session => Device.releaseProgram device session.program) := by
  rcases player with ⟨_ | session, inputs, builtins, next, cancelled, lastError⟩ <;> rfl

theorem teardown_player (player : Player δ) (device : δ) :
    (player.teardown device).1 = player.ended := by
  rw [teardown_eq]

@[simp]
theorem failed_session (player : Player δ) (halt : Halt Program.BuildError) :
    (player.failed halt).session = player.session := by
  cases halt <;> rfl

@[simp]
theorem failed_builtins (player : Player δ) (halt : Halt Program.BuildError) :
    (player.failed halt).builtins = player.builtins := by
  cases halt <;> rfl

@[simp]
theorem failed_nextSession (player : Player δ) (halt : Halt Program.BuildError) :
    (player.failed halt).nextSession = player.nextSession := by
  cases halt <;> rfl

@[simp]
theorem failed_cancelled (player : Player δ) (halt : Halt Program.BuildError) :
    (player.failed halt).cancelled = player.cancelled := by
  cases halt <;> rfl

theorem sameClock_failed (player : Player δ) (halt : Halt Program.BuildError) :
    player.inputs.SameClock (player.failed halt).inputs := by
  cases halt <;> exact ⟨rfl, rfl⟩

/-- A reload ends the session, builds, and installs what was built. -/
theorem reload_eq (player : Player δ) (device : δ) (source : String)
    (controls : List Control.Spec) :
    player.reload device source controls =
      match Program.build (player.teardown device).2 source with
      | (.error halt, device) => ⟨player.ended.failed halt, device, .error halt⟩
      | (.ok program, device) =>
          ⟨(player.ended.install device program controls).1, device,
            .ok (player.ended.install device program controls).2⟩ := by
  rw [← teardown_player player device]
  rfl

/-- What a reload makes of the player. -/
theorem reload_player (player : Player δ) (device : δ) (source : String)
    (controls : List Control.Spec) :
    (∃ halt, (player.reload device source controls).player = player.ended.failed halt) ∨
      ∃ later program, (player.reload device source controls).player =
        (player.ended.install later program controls).1 := by
  rw [reload_eq]
  rcases Program.build (player.teardown device).2 source with ⟨halt | program, later⟩
  · exact Or.inl ⟨halt, rfl⟩
  · exact Or.inr ⟨later, program, rfl⟩

/-- A reload leaves the pause flag and the waiting actions alone. -/
theorem sameClock_reload (player : Player δ) (device : δ) (source : String)
    (controls : List Control.Spec) :
    player.inputs.SameClock (player.reload device source controls).player.inputs := by
  rcases player.reload_player device source controls with ⟨halt, equal⟩ | ⟨later, program, equal⟩
  · rw [equal, ← player.ended_inputs]
    exact player.ended.sameClock_failed halt
  · rw [equal, ← player.ended_inputs]
    exact ⟨rfl, rfl⟩

end Player

/-! ## Requests -/

/-- What can be asked of a player. -/
inductive Request where
  | change (change : Change)
  | reload (source : String) (controls : List Control.Spec)
  | frame (ticket : Ticket) (now : Instant)
  | shutdown

/-- An accepted frame: its session, and what it ran with. -/
structure Accepted where
  session : Id
  timeline : Timeline
  inputs : Inputs
  now : Instant

/-- What the timeline makes of a frame. -/
def Accepted.sample (frame : Accepted) : Sample :=
  (frame.timeline.advance frame.now frame.inputs.paused frame.inputs.pending).1

/-- The record of a frame that is accepted for a session. -/
def Player.record (player : Player δ) (session : Session δ) (now : Instant) : Accepted :=
  ⟨session.id, session.timeline, player.inputs, now⟩

namespace Schedule

/-- Serves one request. -/
def serve (schedule : Schedule δ) : Request → Schedule δ
  | .change change => schedule.mapInputs change.apply
  | .reload source controls => (schedule.reload source controls).2
  | .frame ticket now => (schedule.runTicket now ticket).2
  | .shutdown => schedule.shutdown

/-- Serves requests one after the other. -/
def serveAll (schedule : Schedule δ) (requests : List Request) : Schedule δ :=
  requests.foldl serve schedule

/-- The frame that a request makes the player accept, if it does. -/
def accepted? (schedule : Schedule δ) : Request → Option Accepted
  | .frame ticket now =>
      (schedule.player.accepting? ticket).map fun session => schedule.player.record session now
  | _ => none

/-- The frames that are accepted while requests are served, the newest first. -/
def history (schedule : Schedule δ) : List Request → List Accepted
  | [] => []
  | request :: rest =>
      (schedule.serve request).history rest ++ (schedule.accepted? request).toList

/-- What becomes of the frame that a request asks for. -/
def outcome? (schedule : Schedule δ) : Request → Option Outcome
  | .frame ticket now => some (schedule.player.runFrame schedule.device ticket now).outcome
  | .change _ | .reload .. | .shutdown => none

/-- Whether a request runs a frame that is rendered. -/
def Renders (schedule : Schedule δ) (request : Request) : Prop :=
  ∃ report, schedule.outcome? request = some (.rendered report)

/-- What becomes of the frames of a run. -/
def outcomes (schedule : Schedule δ) : List Request → List Outcome
  | [] => []
  | request :: rest => (schedule.outcome? request).toList ++ (schedule.serve request).outcomes rest

theorem serve_reload_player (schedule : Schedule δ) (source : String)
    (controls : List Control.Spec) :
    (schedule.serve (.reload source controls)).player =
      (schedule.player.reload schedule.device source controls).player := by
  simp only [serve, reload]
  split <;> rfl

theorem serve_shutdown_player (schedule : Schedule δ) :
    (schedule.serve .shutdown).player = schedule.player.ended :=
  Player.teardown_player schedule.player schedule.device

theorem serve_frame_player (schedule : Schedule δ) (ticket : Ticket) (now : Instant) :
    (schedule.serve (.frame ticket now)).player =
      (schedule.player.runFrame schedule.device ticket now).player := by
  simp only [serve, runTicket]
  split <;> rfl

theorem serve_reload_device (schedule : Schedule δ) (source : String)
    (controls : List Control.Spec) :
    (schedule.serve (.reload source controls)).device =
      (schedule.player.reload schedule.device source controls).device := by
  simp only [serve, reload]
  split <;> rfl

theorem serve_frame_device (schedule : Schedule δ) (ticket : Ticket) (now : Instant) :
    (schedule.serve (.frame ticket now)).device =
      (schedule.player.runFrame schedule.device ticket now).device := by
  simp only [serve, runTicket]
  split <;> rfl

/-- No request changes which uniforms are built in. -/
theorem builtins_serve (schedule : Schedule δ) (request : Request) :
    (schedule.serve request).player.builtins = schedule.player.builtins := by
  cases request with
  | change change => rfl
  | reload source controls =>
      rw [serve_reload_player]
      rcases schedule.player.reload_player schedule.device source controls with
        ⟨halt, equal⟩ | ⟨later, program, equal⟩
      · rw [equal]
        exact schedule.player.ended.failed_builtins halt
      · rw [equal]
        exact schedule.player.ended_builtins
  | frame ticket now =>
      rw [serve_frame_player]
      cases accepted : schedule.player.accepting? ticket with
      | none => rw [Player.runFrame_of_rejecting accepted]
      | some session => rw [Player.runFrame_of_accepting accepted]
  | shutdown =>
      rw [serve_shutdown_player]
      exact schedule.player.ended_builtins

@[simp]
theorem serveAll_nil (schedule : Schedule δ) : schedule.serveAll [] = schedule := rfl

@[simp]
theorem serveAll_append (schedule : Schedule δ) (first second : List Request) :
    schedule.serveAll (first ++ second) = (schedule.serveAll first).serveAll second :=
  List.foldl_append

@[simp]
theorem serveAll_singleton (schedule : Schedule δ) (request : Request) :
    schedule.serveAll [request] = schedule.serve request := rfl

theorem builtins_serveAll (schedule : Schedule δ) (requests : List Request) :
    (schedule.serveAll requests).player.builtins = schedule.player.builtins := by
  induction requests generalizing schedule with
  | nil => rfl
  | cons request rest ih => exact (ih _).trans (builtins_serve schedule request)

theorem history_append (schedule : Schedule δ) (first second : List Request) :
    schedule.history (first ++ second) =
      (schedule.serveAll first).history second ++ schedule.history first := by
  induction first generalizing schedule with
  | nil => simp [history]
  | cons request rest ih =>
      rw [List.cons_append, history, history, ih, List.append_assoc]
      rfl

/-- The last request adds the frame that it makes the player accept, if it does. -/
theorem history_concat (schedule : Schedule δ) (requests : List Request) (request : Request) :
    schedule.history (requests ++ [request]) =
      ((schedule.serveAll requests).accepted? request).toList ++ schedule.history requests := by
  rw [history_append]
  simp [history]

theorem outcomes_append (schedule : Schedule δ) (first second : List Request) :
    schedule.outcomes (first ++ second) =
      schedule.outcomes first ++ (schedule.serveAll first).outcomes second := by
  induction first generalizing schedule with
  | nil => rfl
  | cons request rest ih =>
      rw [List.cons_append, outcomes, outcomes, ih, List.append_assoc]
      rfl

/-- The last request adds what became of the frame that it asks for, if it does. -/
theorem outcomes_concat (schedule : Schedule δ) (requests : List Request) (request : Request) :
    schedule.outcomes (requests ++ [request]) =
      schedule.outcomes requests ++
        ((schedule.serveAll requests).outcome? request).toList := by
  rw [outcomes_append]
  simp [outcomes]

end Schedule

end LiveShader.Session
