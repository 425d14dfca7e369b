import LiveShader.Proofs.Session.Calls
import LiveShader.Proofs.Window.Run

/-!
# The calls of a window

A host makes calls of its own as well: after a build that failed it presents a blank frame.
The main statement follows any run of a host on any device, in which frames may besides be
run under any ticket.  The journal of the run is a sequence of blocks.
-/

namespace LiveShader.Window

open LiveShader.Device LiveShader.Session

variable {δ : Type} [Device δ]

/-- An act, or a frame that is run under any ticket. -/
inductive Deed where
  | act (act : Act)
  | run (surroundings : Surroundings) (ticket : Ticket)

namespace Host

/-- The host after a deed. -/
def carryOut [Resizable δ] (host : Host δ) : Deed → Host δ
  | .act act => host.perform act
  | .run surroundings ticket => (host.runTicket surroundings ticket).1

/-- The host after some deeds. -/
def carryOutAll [Resizable δ] (host : Host δ) (deeds : List Deed) : Host δ :=
  deeds.foldl carryOut host

/-- The calls of a host's device are blocks so far, as those of its player. -/
def InBlocks (host : Host (Journaled δ)) : Prop := host.player.InBlocks host.device

variable {host later : Host (Journaled δ)}

theorem InBlocks.same (inBlocks : host.InBlocks) (same : later.Same host) : later.InBlocks := by
  rw [InBlocks, same.player, same.device]
  exact inBlocks

/-- A blank frame is begun and ended, or fails to begin. -/
theorem InBlocks.presentBlank (inBlocks : host.InBlocks) : host.presentBlank.InBlocks := by
  have kept : ∀ session, host.player.session = some session → ∃ earlier,
      host.player.session = some earlier ∧ session.program = earlier.program ∧
        session.bindings = earlier.bindings :=
    fun session present => ⟨session, present, rfl, rfl⟩
  simp only [Host.presentBlank, Device.beginFrame]
  rcases Device.beginFrame host.device.device with ⟨error | _, device⟩
  · exact Player.InBlocks.append inBlocks .beginFailed rfl kept
  · exact Player.InBlocks.append inBlocks .blank rfl kept

theorem InBlocks.reload (inBlocks : host.InBlocks) (source : String)
    (controls : List Control.Spec) : (host.reload source controls).InBlocks :=
  Player.InBlocks.reload inBlocks source controls

theorem InBlocks.load (inBlocks : host.InBlocks) (source : String)
    (controls : List Control.Spec) : (host.load source controls).InBlocks := by
  have reloaded := inBlocks.reload source controls
  have same := host.same_load source controls
  split at same
  · exact reloaded.same same
  · exact reloaded.same same
  · exact reloaded.presentBlank.same same

theorem InBlocks.runTicket (inBlocks : host.InBlocks) (surroundings : Surroundings)
    (ticket : Ticket) : (host.runTicket surroundings ticket).1.InBlocks := by
  refine InBlocks.same ?_ (host.same_runTicket surroundings ticket)
  exact Player.InBlocks.runFrame inBlocks ticket surroundings.now

theorem InBlocks.runTickets (inBlocks : host.InBlocks) (surroundings : Surroundings)
    (tickets : List Ticket) : (host.runTickets surroundings tickets).1.InBlocks := by
  induction tickets generalizing host surroundings with
  | nil => exact inBlocks
  | cons ticket rest ih =>
      rw [Host.runTickets]
      exact ih (inBlocks.runTicket surroundings ticket) _

theorem InBlocks.redraw (inBlocks : host.InBlocks) (surroundings : Surroundings) :
    (host.redraw surroundings).1.InBlocks := by
  have emptied : InBlocks { host with waiting := [], redraws := 0 } := inBlocks
  exact emptied.runTickets surroundings host.waiting

theorem InBlocks.runWaiting (inBlocks : host.InBlocks) (place : Nat)
    (surroundings : Surroundings) : (host.runWaiting place surroundings).InBlocks := by
  rw [Host.runWaiting]
  split
  · have taken : InBlocks { host with waiting := host.waiting.eraseIdx place } := inBlocks
    exact taken.runTicket surroundings _
  · exact inBlocks

theorem InBlocks.finish (inBlocks : host.InBlocks) : host.finish.InBlocks := by
  have ended := Player.InBlocks.ended inBlocks
  rw [← Player.teardown_player host.player host.device] at ended
  exact ended

variable [Resizable δ]

/-- Every deed adds whole blocks of calls. -/
theorem InBlocks.carryOut (inBlocks : host.InBlocks) (deed : Deed) :
    (host.carryOut deed).InBlocks := by
  have changed : ∀ change, (host.mapInputs change).InBlocks :=
    fun change => Player.InBlocks.mapInputs inBlocks change
  cases deed with
  | run surroundings ticket => exact inBlocks.runTicket surroundings ticket
  | act act =>
      cases act with
      | reload source controls => exact inBlocks.reload source controls
      | finish => exact inBlocks.finish
      | command command =>
          rcases host.handleCommand_cases command with ⟨source, controls, rfl⟩ | ⟨change, same⟩
          · exact inBlocks.load source controls
          · exact (changed change).same same
      | event surroundings event =>
          rcases host.handleEvent_cases surroundings event with
            rfl | ⟨size, change, same⟩ | ⟨change, same⟩
          · exact inBlocks.redraw surroundings
          · refine InBlocks.same ?_ same
            exact ⟨inBlocks.blocks, inBlocks.lookedUp⟩
          · exact (changed change).same same
      | runWaiting place surroundings => exact inBlocks.runWaiting place surroundings

theorem InBlocks.carryOutAll (inBlocks : host.InBlocks) (deeds : List Deed) :
    (host.carryOutAll deeds).InBlocks := by
  induction deeds generalizing host with
  | nil => exact inBlocks
  | cons deed rest ih => exact ih (inBlocks.carryOut deed)

end Host

/--
The calls of a device are a sequence of blocks.  Take any run of a host on any device, from a
player without a session; programs are loaded and reloaded, inputs change, frames run under
any tickets, and the session is shut down, in any order and whatever fails.  The device is
then between two frames and no call was out of order: a frame that was begun is ended before
the next one begins, is drawn once if a program was bound in it and not at all otherwise,
and all uniforms are written between these two calls, at places that a lookup in the bound
program returned.
-/
theorem calls_in_blocks [Resizable δ] (host : Host (Journaled δ)) (inputs : Playback.Inputs)
    (builtins : Program.BuiltinNames) (device : δ) (deeds : List Deed) :
    let run := (host.anew (.start inputs builtins) (.start device)).carryOutAll deeds
    Blocks δ run.device.entries ∧ phase? run.device.entries = some .idle := by
  intro run
  have begun : (host.anew (.start inputs builtins) (.start device)).InBlocks :=
    Player.inBlocks_start inputs builtins device
  have inBlocks : run.InBlocks := begun.carryOutAll deeds
  exact ⟨inBlocks.blocks, inBlocks.blocks.phase_idle⟩

end LiveShader.Window
