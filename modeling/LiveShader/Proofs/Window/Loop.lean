import LiveShader.Proofs.Session.Loop
import LiveShader.Proofs.Window.Run
import Mathlib.Data.List.Perm.Basic

/-!
# The render loop of a window

A redraw takes all frames that wait and runs each of them; the next frame is asked for
while the batch is still running.  In whatever order a host reloads, draws and is shut
down, it keeps one live frame while a session is installed and none otherwise.
-/

namespace LiveShader.Window

open LiveShader.Device LiveShader.Session

variable {δ : Type} [Device δ]

namespace Host

/-- As many of the waiting frames are live as there are sessions. -/
def Looping (host : Host δ) : Prop := host.player.Looping host.waiting

variable {host later : Host δ}

theorem Looping.same (looping : host.Looping) (same : later.Same host) : later.Looping := by
  rw [Looping, same.player, same.waiting]
  exact looping

/-! ## Frames -/

theorem looping_runTicket {ticket : Ticket} {queue : List Ticket}
    (looping : host.player.Looping (ticket :: queue ++ host.waiting))
    (surroundings : Surroundings) :
    (host.runTicket surroundings ticket).1.player.Looping
      (queue ++ (host.runTicket surroundings ticket).1.waiting) := by
  have same := host.same_runTicket surroundings ticket
  rw [same.player, same.waiting, ← List.append_assoc]
  exact Player.Looping.runFrame looping host.device surroundings.now

/-- A batch is drained while the frames that it asks for wait. -/
theorem looping_runTickets {batch : List Ticket}
    (looping : host.player.Looping (batch ++ host.waiting)) (surroundings : Surroundings) :
    (host.runTickets surroundings batch).1.Looping := by
  -- The rest of the batch and the queue together are what waits.
  induction batch generalizing host surroundings with
  | nil => exact looping
  | cons ticket rest ih =>
      rw [runTickets]
      exact ih (looping_runTicket looping surroundings) _

theorem Looping.redraw (looping : host.Looping) (surroundings : Surroundings) :
    (host.redraw surroundings).1.Looping := by
  rw [Host.redraw]
  apply looping_runTickets
  rw [List.append_nil]
  exact looping

theorem Looping.runWaiting (looping : host.Looping) (place : Nat)
    (surroundings : Surroundings) : (host.runWaiting place surroundings).Looping := by
  rw [Host.runWaiting]
  split
  · rename_i ticket found
    obtain ⟨bound, rfl⟩ := List.getElem?_eq_some_iff.mp found
    have taken : host.player.Looping (host.waiting[place] :: [] ++ host.waiting.eraseIdx place) :=
      Player.Looping.perm looping (List.getElem_cons_eraseIdx_perm bound)
    let emptied : Host δ := { host with waiting := host.waiting.eraseIdx place }
    exact @looping_runTicket _ _ emptied _ [] taken surroundings
  · exact looping

/-! ## Acts -/

theorem Looping.load (looping : host.Looping) (source : String)
    (controls : List Control.Spec) : (host.load source controls).Looping := by
  have reloaded : (host.reload source controls).Looping :=
    Player.Looping.reload looping host.device source controls
  have same := host.same_load source controls
  split at same
  · exact reloaded.same same
  · exact reloaded.same same
  · rw [Looping, same.player, same.waiting]
    simp only [presentBlank]
    split <;> exact reloaded

theorem Looping.finish (looping : host.Looping) : host.finish.Looping := by
  have ended := Player.Looping.ended looping
  rw [← Player.teardown_player host.player host.device] at ended
  exact ended

variable [Resizable δ]

/-- Whatever a host does, it keeps one loop per session. -/
theorem Looping.perform (looping : host.Looping) (act : Act) : (host.perform act).Looping := by
  have changed : ∀ change, (host.mapInputs change).Looping :=
    fun change => Player.Looping.mapInputs looping change
  cases act with
  | reload source controls => exact Player.Looping.reload looping host.device source controls
  | finish => exact looping.finish
  | runWaiting place surroundings => exact looping.runWaiting place surroundings
  | command command =>
      rcases host.handleCommand_cases command with ⟨source, controls, rfl⟩ | ⟨change, same⟩
      · exact looping.load source controls
      · exact (changed change).same same
  | event surroundings event =>
      rcases host.handleEvent_cases surroundings event with
        rfl | ⟨size, change, same⟩ | ⟨change, same⟩
      · exact looping.redraw surroundings
      · have resized : Looping ({ host with device := Resizable.resize host.device size }.mapInputs
            change) := changed change
        exact resized.same same
      · exact (changed change).same same

theorem Looping.performAll (looping : host.Looping) (acts : List Act) :
    (host.performAll acts).Looping := by
  induction acts generalizing host with
  | nil => exact looping
  | cons act rest ih => exact ih (looping.perform act)

end Host

/-! ## What stops a loop -/

section Sessions

variable {host later : Host δ}

theorem installedId?_runTicket (host : Host δ) (surroundings : Surroundings) (ticket : Ticket) :
    (host.runTicket surroundings ticket).1.player.installedId? = host.player.installedId? := by
  rw [(host.same_runTicket surroundings ticket).player]
  exact (host.player.runFrame_numbers host.device ticket surroundings.now).1

theorem installedId?_runTickets (host : Host δ) (surroundings : Surroundings)
    (tickets : List Ticket) :
    (host.runTickets surroundings tickets).1.player.installedId? = host.player.installedId? := by
  induction tickets generalizing host surroundings with
  | nil => rfl
  | cons ticket rest ih =>
      rw [Host.runTickets]
      exact (ih _ _).trans (installedId?_runTicket host surroundings ticket)

variable [Resizable δ]

/-- Only a reload or a shutdown replaces the session. -/
theorem installedId?_perform (host : Host δ) {act : Act} (quiet : act.endsSession = false) :
    (host.perform act).player.installedId? = host.player.installedId? := by
  cases act with
  | reload source controls => cases quiet
  | finish => cases quiet
  | runWaiting place surroundings =>
      simp only [Host.perform, Host.runWaiting]
      split
      · exact installedId?_runTicket _ surroundings _
      · rfl
  | command command =>
      rcases host.handleCommand_cases command with ⟨source, controls, rfl⟩ | ⟨change, same⟩
      · cases quiet
      · exact (congrArg Player.installedId? same.player).trans rfl
  | event surroundings event =>
      rcases host.handleEvent_cases surroundings event with
        rfl | ⟨size, change, same⟩ | ⟨change, same⟩
      · exact installedId?_runTickets _ surroundings host.waiting
      · exact (congrArg Player.installedId? same.player).trans rfl
      · exact (congrArg Player.installedId? same.player).trans rfl

theorem installedId?_performAll (host : Host δ) {acts : List Act}
    (quiet : ∀ act ∈ acts, act.endsSession = false) :
    (host.performAll acts).player.installedId? = host.player.installedId? := by
  induction acts generalizing host with
  | nil => rfl
  | cons act rest ih =>
      have others := ih (host.perform act) fun other member =>
        quiet other (List.mem_cons_of_mem _ member)
      exact others.trans (installedId?_perform host (quiet act List.mem_cons_self))

end Sessions

/-! ## The attempts of a redraw -/

/-- The frames of a batch attempt to begin as often as live tickets are among them. -/
theorem attempted_runTickets {host : Host (Journaled δ)} (numbered : host.player.Numbered)
    {batch : List Ticket} (gave : ∀ ticket ∈ batch, host.player.Gave ticket.session)
    (surroundings : Surroundings) :
    Attempted (batch.countP host.player.isLive) host.device.entries
      (host.runTickets surroundings batch).1.device.entries := by
  induction batch generalizing host surroundings with
  | nil => exact .refl _
  | cons ticket rest ih =>
      obtain ⟨player, entered, _⟩ := host.same_runTicket surroundings ticket
      dsimp only at player entered
      obtain ⟨_, cancelled, next⟩ :=
        host.player.runFrame_numbers host.device ticket surroundings.now
      rw [← player] at cancelled next
      have first := numbered.attempted_runFrame (gave ticket List.mem_cons_self) host.device
        surroundings.now
      rw [← entered] at first
      have alive : (host.runTicket surroundings ticket).1.player.isLive =
          host.player.isLive := by
        funext other
        rw [Player.isLive, Player.isLive, cancelled]
      have still : (host.runTicket surroundings ticket).1.player.Numbered := by
        rw [player]
        exact numbered.runFrame host.device ticket surroundings.now
      have given : ∀ other ∈ rest,
          (host.runTicket surroundings ticket).1.player.Gave other.session := by
        intro other member
        rw [Player.Gave, next]
        exact gave other (List.mem_cons_of_mem _ member)
      have others := ih still given
        { surroundings with files := (host.runTicket surroundings ticket).2 }
      rw [alive] at others
      rw [← List.singleton_append, List.countP_append]
      exact first.trans others

/--
There is one render loop.  Take any run of a host on any device, from a player without a
session, in which frames are run out of the queue, by redraws or one at a time in any order;
programs are loaded and reloaded, inputs change and the session is shut down in between,
whatever fails.  One of the frames that wait is live if a session is installed and none is
otherwise; a redraw attempts to begin as many frames and draws no more; and while nothing
is reloaded or shut down the same session stays and its loop goes on.
-/
theorem one_loop [Resizable δ] (host : Host (Journaled δ)) (inputs : Playback.Inputs)
    (builtins : Program.BuiltinNames) (device : δ) (acts : List Act) :
    let run := (host.anew (.start inputs builtins) (.start device)).performAll acts
    let loops := if run.player.hasSession then 1 else 0
    run.waiting.countP run.player.isLive = loops ∧
      (∀ surroundings,
        Attempted loops run.device.entries (run.redraw surroundings).1.device.entries) ∧
      ∀ more : List Act, (∀ act ∈ more, act.endsSession = false) →
        let later := run.performAll more
        later.player.installedId? = run.player.installedId? ∧
          later.waiting.countP later.player.isLive = loops := by
  intro run loops
  have begun : (host.anew (.start inputs builtins) (.start device)).Looping :=
    Player.looping_start inputs builtins
  have looping : run.Looping := begun.performAll acts
  refine ⟨looping.live, ?_, ?_⟩
  · intro surroundings
    let emptied : Host (Journaled δ) := { run with waiting := [], redraws := 0 }
    have numbered : emptied.player.Numbered := looping.numbered
    have attempted := attempted_runTickets numbered looping.gave surroundings
    rw [show run.waiting.countP emptied.player.isLive = loops from looping.live] at attempted
    exact attempted
  · intro more quiet later
    have ids := installedId?_performAll run quiet
    refine ⟨ids, ?_⟩
    exact (looping.performAll more).live.trans (Player.expected_congr ids)

end LiveShader.Window
