import LiveShader.Proofs.Session.Run
import LiveShader.Window.Runtime

/-!
# What a window reports of failed builds

A window reports a failed build only while it handles a load, and then it is the build of
the source that it was told to load.  All other commands and events, and the end of the
window, report no build.
-/

namespace LiveShader.Window

variable {δ : Type} [Device δ]

variable (δ) in
/-- The report of a build of a source that returned an error on some state of a device. -/
def ReportsBuild (source report : String) : Prop :=
  ∃ (device later : δ) (error : Program.BuildError),
    Program.build device source = (.error (.refused error), later) ∧ report = error.report

namespace Host

variable {host : Host δ} {report : String}

theorem signals_presentBlank (host : Host δ) : host.presentBlank.signals = host.signals := by
  rw [presentBlank]
  split <;> rfl

theorem mem_signal {signal : Signal} (other : signal ≠ .buildFailed report)
    (member : .buildFailed report ∈ (host.signal signal).signals) :
    .buildFailed report ∈ host.signals := by
  rcases List.mem_append.mp member with old | new
  · exact old
  · exact absurd (List.mem_singleton.mp new).symm other

/-! ## Commands -/

/-- A load adds one signal, that the program runs or that its build failed, if it returns. -/
theorem signals_load (host : Host δ) (source : String) (controls : List Control.Spec) :
    (host.load source controls).signals = host.signals ++
      match (host.player.reload host.device source controls).result with
        | .ok _ => [.loaded]
        | .error (.refused error) => [.buildFailed error.report]
        | .error .overflow => [] := by
  simp only [load]
  cases (host.player.reload host.device source controls).result with
  | ok ticket => rfl
  | error halt =>
      cases halt with
      | refused error => exact congrArg (· ++ _) (signals_presentBlank _)
      | overflow => exact (List.append_nil _).symm

theorem build_of_result {player : Session.Player δ} {device : δ} {source : String}
    {controls : List Control.Spec} {halt : Halt Program.BuildError}
    (failed : (player.reload device source controls).result = .error halt) :
    ∃ later, Program.build (player.teardown device).2 source = (.error halt, later) := by
  rw [Session.Player.reload_eq] at failed
  generalize Program.build (player.teardown device).2 source = answer at failed ⊢
  rcases answer with ⟨cause | program, later⟩
  · cases failed
    exact ⟨later, rfl⟩
  · cases failed

/-- A load reports the build of its source, if that fails. -/
theorem mem_load {source : String} {controls : List Control.Spec}
    (member : .buildFailed report ∈ (host.load source controls).signals) :
    .buildFailed report ∈ host.signals ∨ ReportsBuild δ source report := by
  rw [signals_load] at member
  rcases List.mem_append.mp member with old | new
  · exact Or.inl old
  · split at new
    · cases List.mem_singleton.mp new
    · rename_i error result
      cases List.mem_singleton.mp new
      obtain ⟨later, build⟩ := build_of_result result
      exact Or.inr ⟨_, later, error, build, rfl⟩
    · cases new

theorem mem_handleCommand {command : Command}
    (member : .buildFailed report ∈ (host.handleCommand command).signals) :
    .buildFailed report ∈ host.signals ∨
      ∃ source controls, command = .load source controls ∧ ReportsBuild δ source report := by
  cases command with
  | load source controls =>
      exact (mem_load member).imp id fun reports => ⟨source, controls, rfl, reports⟩
  | setControl name raw =>
      left
      rw [handleCommand, setControl] at member
      split at member
      · exact member
      · exact mem_signal (by simp) member
  | _ => exact Or.inl member

/-! ## Events -/

theorem mem_finishFrame {surroundings : Surroundings} {outcome : Session.Outcome}
    (member : .buildFailed report ∈ (host.finishFrame surroundings outcome).1.signals) :
    .buildFailed report ∈ host.signals := by
  rw [finishFrame.eq_def] at member
  split at member
  · rename_i drawn
    have shown : (host.showReadout drawn.readout).signals = host.signals := by
      cases drawn.readout <;> rfl
    rw [finishCapture.eq_def] at member
    rw [← shown]
    split at member
    · exact member
    · exact mem_signal (by simp) member
    · split at member
      · exact mem_signal (by simp) member
      · exact mem_signal (by simp) member
  · exact member
  · exact member
  · exact member

theorem mem_runTicket {surroundings : Surroundings} {ticket : Session.Ticket}
    (member : .buildFailed report ∈ (host.runTicket surroundings ticket).1.signals) :
    .buildFailed report ∈ host.signals := by
  rw [runTicket] at member
  have before := mem_finishFrame member
  split at before
  · exact before
  · exact before

theorem mem_runTickets {tickets : List Session.Ticket} {surroundings : Surroundings}
    (member : .buildFailed report ∈ (host.runTickets surroundings tickets).1.signals) :
    .buildFailed report ∈ host.signals := by
  induction tickets generalizing host surroundings with
  | nil => exact member
  | cons ticket rest ih => exact mem_runTicket (ih member)

/-- No event makes the window report a failed build. -/
theorem mem_handleEvent [Resizable δ] {surroundings : Surroundings} {event : Event}
    (member : .buildFailed report ∈ (host.handleEvent surroundings event).1.signals) :
    .buildFailed report ∈ host.signals := by
  cases event with
  | redrawRequested =>
      rw [handleEvent, redraw] at member
      have before := mem_runTickets member
      exact before
  | keyboard stroke =>
      rw [handleEvent, handleKey] at member
      split at member
      · exact member
      · split at member
        · exact member
        · exact member
        · exact member
        · rw [handleCharacter.eq_def] at member
          split at member <;> exact member
        · exact member
  | resized size =>
      rw [handleEvent, resize] at member
      split at member
      · exact member
      · exact member
  | _ => exact member

end Host

/-! ## Windows -/

namespace Runtime

variable {runtime : Runtime δ} {report : String}

/-- The end of a window reports no build. -/
theorem mem_settle {host : Host δ}
    (member : .buildFailed report ∈ (runtime.settle host).host.signals) :
    .buildFailed report ∈ host.signals := by
  rw [settle] at member
  split at member
  · exact member
  · split at member
    · exact Host.mem_signal (by simp) member
    · exact member

theorem mem_send? {command : Command} {after : Runtime δ}
    (sent : runtime.send? command = some after)
    (member : .buildFailed report ∈ after.host.signals) :
    .buildFailed report ∈ runtime.host.signals ∨
      ∃ source controls, command = .load source controls ∧ ReportsBuild δ source report := by
  rw [send?] at sent
  split at sent
  · cases sent
  · cases sent
    exact Host.mem_handleCommand (mem_settle member)

theorem mem_deliver? [Resizable δ] {surroundings : Surroundings} {event : Event}
    {after : Runtime δ × Files.Tree} (delivered : runtime.deliver? surroundings event = some after)
    (member : .buildFailed report ∈ after.1.host.signals) :
    .buildFailed report ∈ runtime.host.signals := by
  rw [deliver?] at delivered
  split at delivered
  · cases delivered
  · cases delivered
    exact Host.mem_handleEvent (mem_settle member)

end Runtime

end LiveShader.Window
