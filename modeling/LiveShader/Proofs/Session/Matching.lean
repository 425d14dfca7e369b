import LiveShader.Proofs.Device.Matching
import LiveShader.Proofs.Session.Run

/-!
# Sessions on devices that answer alike

Two runs with the same requests on matching devices go the same way: their players
agree in everything but the programs and the places of uniforms, which are paired,
and the same frames are scheduled.
-/

namespace LiveShader.Device.Matching

open LiveShader.Playback LiveShader.Session

variable {δ ε : Type} [Device δ] [Device ε] (pairing : Matching δ ε)

/-! ## Frames -/

/-- Paired sessions: the same number and timeline, and paired programs and uniforms. -/
structure Sessions (left : Session δ) (right : Session ε) : Prop where
  id : left.id = right.id
  program : pairing.program left.program right.program
  bindings : pairing.Bindings left.bindings right.bindings
  timeline : left.timeline = right.timeline

/-- What frames of paired sessions leave behind. -/
structure Steps (left : Session.Step δ) (right : Session.Step ε) : Prop where
  outcome : left.outcome = right.outcome
  session : pairing.Sessions left.session right.session
  device : pairing.device left.device right.device
  inputs : left.inputs = right.inputs

theorem captureIfAsked {d : δ} {e : ε} (paired : pairing.device d e) (asked : Bool) :
    (Session.captureIfAsked d asked).1 = (Session.captureIfAsked e asked).1 ∧
      pairing.device (Session.captureIfAsked d asked).2 (Session.captureIfAsked e asked).2 := by
  simp only [Session.captureIfAsked]
  cases asked with
  | false => exact ⟨rfl, paired⟩
  | true =>
      have answers := pairing.capture paired
      simp only [if_true]
      generalize Device.capture d = left at answers ⊢
      generalize Device.capture e = right at answers ⊢
      cases answers with
      | ok images devices => exact ⟨congrArg (some ∘ Except.ok) images, devices⟩
      | error devices => exact ⟨rfl, devices⟩

theorem drawFrame {d : δ} {e : ε} (paired : pairing.device d e) {left : Session δ}
    {right : Session ε} (sessions : pairing.Sessions left right) (inputs : Inputs)
    (sample : Sample) :
    (left.draw d inputs sample).1 = (right.draw e inputs sample).1 ∧
      pairing.device (left.draw d inputs sample).2.1 (right.draw e inputs sample).2.1 ∧
      (left.draw d inputs sample).2.2 = (right.draw e inputs sample).2.2 := by
  have views := pairing.viewport paired
  have bound := pairing.bindProgram paired sessions.program
  have uploaded := pairing.upload bound sessions.bindings
    (Session.frameUniforms (Device.viewport d) sample.elapsed inputs) inputs.controls
  have captured := pairing.captureIfAsked (pairing.draw uploaded) inputs.pending.capture
  rw [views] at captured
  rw [Session.draw]
  rw [views]
  refine ⟨?_, ?_, rfl⟩
  · exact congrArg (Report.mk sample.elapsed sample.readout) captured.1
  · exact pairing.endFrame captured.2

theorem frame {d : δ} {e : ε} (paired : pairing.device d e) {left : Session δ}
    {right : Session ε} (sessions : pairing.Sessions left right) (inputs : Inputs)
    (now : Instant) :
    pairing.Steps (left.frame d inputs now) (right.frame e inputs now) := by
  have answers := pairing.beginFrame paired
  simp only [Session.frame]
  rw [sessions.timeline]
  generalize right.timeline.advance now inputs.paused inputs.pending = advanced
  rcases advanced with ⟨sample, timeline, pending⟩
  have moved : pairing.Sessions { left with timeline := timeline }
      { right with timeline := timeline } :=
    ⟨sessions.id, sessions.program, sessions.bindings, rfl⟩
  dsimp only
  generalize Device.beginFrame d = first at answers ⊢
  generalize Device.beginFrame e = second at answers ⊢
  cases answers with
  | error devices => exact ⟨rfl, moved, devices, rfl⟩
  | ok _ devices =>
      rename_i _ _ d e
      obtain ⟨reports, drawn, rest⟩ :=
        pairing.drawFrame devices moved { inputs with pending := pending } sample
      exact ⟨congrArg Outcome.rendered reports, moved, drawn, rest⟩

/-! ## Players -/

/-- Paired players: they differ at most in their programs and uniforms. -/
structure Players (left : Player δ) (right : Player ε) : Prop where
  session : Option.Rel pairing.Sessions left.session right.session
  inputs : left.inputs = right.inputs
  builtins : left.builtins = right.builtins
  nextSession : left.nextSession = right.nextSession
  cancelled : left.cancelled = right.cancelled
  lastError : left.lastError = right.lastError

section Requests

variable {d : δ} {e : ε} {left : Player δ} {right : Player ε}

theorem accepting (players : pairing.Players left right) (ticket : Ticket) :
    Option.Rel pairing.Sessions (left.accepting? ticket) (right.accepting? ticket) := by
  have sessions := players.session
  unfold Player.accepting? Player.isLive
  rw [players.cancelled]
  generalize left.session = first at sessions ⊢
  generalize right.session = second at sessions ⊢
  cases sessions with
  | none => exact .none
  | some paired =>
      dsimp only
      rw [paired.id]
      split
      · exact .some paired
      · exact .none

theorem runFrame (paired : pairing.device d e) (players : pairing.Players left right)
    (ticket : Ticket) (now : Instant) :
    pairing.Players (left.runFrame d ticket now).player (right.runFrame e ticket now).player ∧
      pairing.device (left.runFrame d ticket now).device (right.runFrame e ticket now).device ∧
      (left.runFrame d ticket now).outcome = (right.runFrame e ticket now).outcome ∧
      (left.runFrame d ticket now).scheduled = (right.runFrame e ticket now).scheduled := by
  have acceptance := pairing.accepting players ticket
  cases first : left.accepting? ticket with
  | none =>
      cases second : right.accepting? ticket with
      | none =>
          rw [Player.runFrame_of_rejecting first, Player.runFrame_of_rejecting second]
          exact ⟨players, paired, rfl, rfl⟩
      | some session =>
          rw [first, second] at acceptance
          cases acceptance
  | some session =>
      cases second : right.accepting? ticket with
      | none =>
          rw [first, second] at acceptance
          cases acceptance
      | some other =>
          rw [first, second] at acceptance
          cases acceptance with
          | some sessions =>
              rw [Player.runFrame_of_accepting first, Player.runFrame_of_accepting second]
              have steps := pairing.frame paired sessions left.inputs now
              rw [← players.inputs]
              refine ⟨⟨.some steps.session, steps.inputs, players.builtins, players.nextSession,
                players.cancelled, players.lastError⟩, steps.device, steps.outcome, ?_⟩
              exact congrArg (fun id => some (Ticket.mk id)) steps.session.id

theorem teardown (paired : pairing.device d e) (players : pairing.Players left right) :
    pairing.Players (left.teardown d).1 (right.teardown e).1 ∧
      pairing.device (left.teardown d).2 (right.teardown e).2 := by
  have sessions := players.session
  rw [Player.teardown_eq, Player.teardown_eq, Player.ended, Player.ended]
  generalize left.session = first at sessions ⊢
  generalize right.session = second at sessions ⊢
  rw [players.inputs, players.builtins, players.nextSession, players.cancelled, players.lastError]
  cases sessions with
  | none => exact ⟨⟨.none, rfl, rfl, rfl, rfl, rfl⟩, paired⟩
  | some session =>
      refine ⟨⟨.none, rfl, rfl, rfl, ?_, rfl⟩, pairing.releaseProgram paired session.program⟩
      dsimp only [Option.map_some]
      rw [session.id]

theorem failed (players : pairing.Players left right) (halt : Halt Program.BuildError) :
    pairing.Players (left.failed halt) (right.failed halt) := by
  cases halt with
  | overflow => exact players
  | refused error =>
      exact ⟨players.session, congrArg (·.installControls []) players.inputs, players.builtins,
        players.nextSession, players.cancelled, rfl⟩

theorem install (paired : pairing.device d e) (players : pairing.Players left right)
    {p : Device.Program δ} {q : Device.Program ε} (programs : pairing.program p q)
    (controls : List Control.Spec) :
    pairing.Players (left.install d p controls).1 (right.install e q controls).1 ∧
      (left.install d p controls).2 = (right.install e q controls).2 := by
  have bindings := pairing.resolve paired programs left.builtins controls
  simp only [Player.install]
  rw [← players.builtins, ← players.nextSession, ← players.inputs]
  exact ⟨⟨.some ⟨rfl, programs, bindings, rfl⟩, rfl, rfl, rfl, players.cancelled, rfl⟩, rfl⟩

theorem reload (paired : pairing.device d e) (players : pairing.Players left right)
    (source : String) (controls : List Control.Spec) :
    pairing.Players (left.reload d source controls).player
        (right.reload e source controls).player ∧
      pairing.device (left.reload d source controls).device
        (right.reload e source controls).device ∧
      (left.reload d source controls).result = (right.reload e source controls).result := by
  obtain ⟨ended, devices⟩ := pairing.teardown paired players
  have answers := pairing.build devices source
  rw [Player.teardown_player, Player.teardown_player] at ended
  rw [Player.reload_eq, Player.reload_eq]
  generalize Program.build (left.teardown d).2 source = first at answers ⊢
  generalize Program.build (right.teardown e).2 source = second at answers ⊢
  cases answers with
  | error devices =>
      exact ⟨pairing.failed ended _, devices, rfl⟩
  | ok programs devices =>
      obtain ⟨installed, tickets⟩ := pairing.install devices ended programs controls
      exact ⟨installed, devices, congrArg Except.ok tickets⟩

end Requests

/-! ## Runs -/

/-- Paired schedules: paired players on paired devices, and the same frames. -/
structure Schedules (left : Schedule δ) (right : Schedule ε) : Prop where
  player : pairing.Players left.player right.player
  device : pairing.device left.device right.device
  queue : left.queue = right.queue
  issued : left.issued = right.issued

namespace Schedules

variable {pairing : Matching δ ε} {left : Schedule δ} {right : Schedule ε}

theorem add (schedules : pairing.Schedules left right) (ticket : Ticket) :
    pairing.Schedules (left.add ticket) (right.add ticket) where
  player := schedules.player
  device := schedules.device
  queue := congrArg (· ++ [ticket]) schedules.queue
  issued := congrArg (· ++ [ticket]) schedules.issued

theorem change (schedules : pairing.Schedules left right) (change : Change) :
    pairing.Schedules (left.mapInputs change.apply) (right.mapInputs change.apply) where
  player :=
    { schedules.player with inputs := congrArg change.apply schedules.player.inputs }
  device := schedules.device
  queue := schedules.queue
  issued := schedules.issued

/-- The same request keeps schedules paired. -/
theorem serve (schedules : pairing.Schedules left right) (request : Request) :
    pairing.Schedules (left.serve request) (right.serve request) := by
  cases request with
  | change change => exact schedules.change change
  | reload source controls =>
      obtain ⟨players, devices, results⟩ :=
        pairing.reload schedules.device schedules.player source controls
      have moved : pairing.Schedules
          { left with
            player := (left.player.reload left.device source controls).player
            device := (left.player.reload left.device source controls).device }
          { right with
            player := (right.player.reload right.device source controls).player
            device := (right.player.reload right.device source controls).device } :=
        ⟨players, devices, schedules.queue, schedules.issued⟩
      simp only [Schedule.serve, Schedule.reload]
      rw [results]
      split
      · exact moved.add _
      · exact moved
  | frame ticket now =>
      obtain ⟨players, devices, outcomes, tickets⟩ :=
        pairing.runFrame schedules.device schedules.player ticket now
      have moved : pairing.Schedules
          { left with
            player := (left.player.runFrame left.device ticket now).player
            device := (left.player.runFrame left.device ticket now).device }
          { right with
            player := (right.player.runFrame right.device ticket now).player
            device := (right.player.runFrame right.device ticket now).device } :=
        ⟨players, devices, schedules.queue, schedules.issued⟩
      simp only [Schedule.serve, Schedule.runTicket]
      rw [tickets]
      split
      · exact moved.add _
      · exact moved
  | shutdown =>
      obtain ⟨players, devices⟩ := pairing.teardown schedules.device schedules.player
      exact ⟨players, devices, schedules.queue, schedules.issued⟩

theorem serveAll (schedules : pairing.Schedules left right) (requests : List Request) :
    pairing.Schedules (left.serveAll requests) (right.serveAll requests) := by
  induction requests generalizing left right with
  | nil => exact schedules
  | cons request rest ih => exact ih (schedules.serve request)

end Schedules

end LiveShader.Device.Matching
