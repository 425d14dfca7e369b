import LiveShader.Device.Scripted
import LiveShader.Proofs.Session.Readouts

/-!
# Pauses and resumptions that wait

The pause flag and the actions that wait belong to the inputs and outlive every session.  A
pause waits if the flag went up since the last accepted frame, of whichever session, and a
resumption if it went down; a flag that went up and down again leaves nothing behind.  Reloads,
shutdowns and rejected tickets touch neither the flag nor what waits.  Every accepted frame uses
up both actions, and the flag that it saw is the one that later changes are compared with.

What is used up need not reach the timeline.  At the first frame of a session and at a reset the
timeline begins anew and looks at neither action; at every other frame it receives what waits.
-/

namespace LiveShader.Playback

namespace Pending.Matches

variable {pending : Pending} {seen paused : Bool}

theorem pause_iff (fits : pending.Matches seen paused) :
    pending.isPending .pause = true ↔ seen = false ∧ paused = true := by
  rw [isPending, fits.pause]
  simp

theorem resume_iff (fits : pending.Matches seen paused) :
    pending.isPending .resume = true ↔ seen = true ∧ paused = false := by
  rw [isPending, fits.resume]
  simp

/-- One of both waits exactly if the flag differs from the one that was seen. -/
theorem either_iff (fits : pending.Matches seen paused) :
    pending.isPending .pause = true ∨ pending.isPending .resume = true ↔ paused ≠ seen := by
  rw [fits.pause_iff, fits.resume_iff]
  cases seen <;> cases paused <;> simp

end Pending.Matches

namespace Timeline

variable (timeline : Timeline) (now : Instant) (pending : Pending)

/-- Whether a timeline goes on at a frame: it has begun, and no reset waits. -/
def goesOn : Bool := timeline.origin.isSome && !pending.reset

/-- Whether a frame hands a waiting action to the timeline. -/
def receives (action : Action) : Bool := timeline.goesOn pending && pending.isPending action

/-- A timeline that goes on is moved by the pause and the resumption it receives. -/
theorem moved_eq :
    timeline.moved now pending =
      if timeline.goesOn pending then
        (timeline.pauseAt now (timeline.receives pending .pause)).resumeAt now
          (timeline.origin.getD now) (timeline.receives pending .resume)
      else timeline.restart now := by
  cases started : timeline.origin with
  | none => simp [moved_of_unstarted _ _ _ started, goesOn, started]
  | some origin =>
      cases reset : pending.reset with
      | true => simp [moved_of_reset _ _ _ reset, goesOn, reset]
      | false =>
          rw [moved_of_started _ _ _ started reset]
          simp [receives, goesOn, started, reset, Pending.isPending]

theorem receives_of_goesOn {timeline : Timeline} {pending : Pending}
    (goes : timeline.goesOn pending = true) (action : Action) :
    timeline.receives pending action = pending.isPending action := by
  rw [receives, goes, Bool.true_and]

end Timeline

end LiveShader.Playback

namespace LiveShader.Session

open LiveShader.Playback

variable {δ : Type} [Device δ]

/-- The pause flag that the newest frame saw; before the first frame it is the flag at the start. -/
def lastSeen (paused : Bool) : List Accepted → Bool
  | [] => paused
  | last :: _ => last.inputs.paused

/-- Whether a frame hands a waiting action to its timeline. -/
def Accepted.receives (frame : Accepted) (action : Action) : Bool :=
  frame.timeline.receives frame.inputs.pending action

/-! ## Requests and what waits -/

/-- One request keeps what waits in step with the flag that was seen last. -/
theorem Schedule.matches_serve {schedule : Schedule δ} {paused : Bool} {frames : List Accepted}
    (fits : schedule.player.inputs.Matches (lastSeen paused frames)) (request : Request) :
    (schedule.serve request).player.inputs.Matches
      (lastSeen paused ((schedule.accepted? request).toList ++ frames)) := by
  cases request with
  | change change => exact fits.apply change
  | reload source controls =>
      rw [serve_reload_player]
      exact (schedule.player.sameClock_reload schedule.device source controls).matches fits
  | shutdown =>
      rw [serve_shutdown_player, schedule.player.ended_inputs]
      exact fits
  | frame ticket now =>
      rw [serve_frame_player, accepted?]
      cases accepted : schedule.player.accepting? ticket with
      | none =>
          rw [Player.runFrame_of_rejecting accepted]
          exact fits
      | some session =>
          rw [Player.runFrame_of_accepting accepted]
          exact frame_inputs_matches session schedule.device schedule.player.inputs now

theorem matches_serveAll (viewport : Size) (paused : Bool) (builtins : Program.BuiltinNames)
    (device : δ) (requests : List Request) :
    let start := Schedule.start (Player.start (.start viewport paused) builtins) device
    (start.serveAll requests).player.inputs.Matches
      (lastSeen paused (start.history requests)) := by
  intro start
  induction requests using List.reverseRecOn with
  | nil => exact Timeline.matches_remaining .none paused
  | append_singleton requests request ih =>
      rw [Schedule.serveAll_append, Schedule.history_concat]
      exact Schedule.matches_serve ih request

/-! ## What the timeline receives -/

/-- A frame that resumes where its session stopped goes on there, unless a reset waits. -/
theorem Resumes.goesOn {timeline : Timeline} {inputs : Inputs} {last : Accepted}
    {earlier : List Accepted} (resumes : Resumes timeline inputs (last :: earlier))
    (noReset : inputs.pending.reset = false) : timeline.goesOn inputs.pending = true := by
  rw [Timeline.goesOn, resumes.started, noReset]
  rfl

/--
What waits always matches the flag.  After any run from a player without a session, a pause
waits exactly if the last accepted frame saw the flag down and it is up now, and a resumption
exactly if it was seen up and is down now; so they never wait together.  At a frame that is not
the first of its session and has no reset waiting, the timeline is moved by a pause exactly if
the flag went up since the frame before it, by a resumption exactly if it went down, and so by
one of both exactly if the flag differs.
-/
theorem latched_matches_flag (viewport : Size) (paused : Bool) (builtins : Program.BuiltinNames)
    (device : δ) (requests : List Request) :
    let start := Schedule.start (Player.start (.start viewport paused) builtins) device
    let seen := lastSeen paused (start.history requests)
    let inputs := (start.serveAll requests).player.inputs
    (inputs.pending.isPending .pause = true ↔ seen = false ∧ inputs.paused = true) ∧
      (inputs.pending.isPending .resume = true ↔ seen = true ∧ inputs.paused = false) ∧
      ¬ (inputs.pending.isPending .pause = true ∧ inputs.pending.isPending .resume = true) ∧
      ∀ session frame last earlier,
        frame :: last :: earlier <:+ framesOf session (start.history requests) →
        frame.inputs.pending.reset = false →
        frame.timeline.moved frame.now frame.inputs.pending =
            (frame.timeline.pauseAt frame.now (frame.receives .pause)).resumeAt frame.now
              (frame.timeline.origin.getD frame.now) (frame.receives .resume) ∧
          (frame.receives .pause = true ↔
            last.inputs.paused = false ∧ frame.inputs.paused = true) ∧
          (frame.receives .resume = true ↔
            last.inputs.paused = true ∧ frame.inputs.paused = false) ∧
          (frame.receives .pause = true ∨ frame.receives .resume = true ↔
            frame.inputs.paused ≠ last.inputs.paused) := by
  intro start seen inputs
  have fits : inputs.Matches seen := matches_serveAll viewport paused builtins device requests
  refine ⟨fits.pause_iff, fits.resume_iff, ?_, ?_⟩
  · rintro ⟨pausing, resuming⟩
    have up := (fits.pause_iff.mp pausing).2
    have down := (fits.resume_iff.mp resuming).2
    rw [up] at down
    cases down
  · intro session frame last earlier run noReset
    have resumes := (resumes_serveAll (.start viewport paused) builtins device requests).2
      session frame (last :: earlier) run
    have goes := resumes.goesOn noReset
    simp only [Accepted.receives, Timeline.receives_of_goesOn goes]
    refine ⟨?_, resumes.2.pause_iff, resumes.2.resume_iff, resumes.2.either_iff⟩
    rw [Timeline.moved_eq, if_pos goes, Timeline.receives_of_goesOn goes,
      Timeline.receives_of_goesOn goes]

/--
A host starts paused and resumes before the first session.  Its first frame begins the time, a
pause waits for the second, and another session follows.
-/
def resumedEarly : List Request :=
  [.change (.setPaused false), .reload "void main() \x7b\x7d" [], .frame ⟨1⟩ 0,
    .change .togglePaused, .frame ⟨1⟩ 1000000000, .change (.setPaused false),
    .reload "void main() \x7b \x7d" [], .frame ⟨1⟩ 2000000000]

/-- The schedule from which that host starts, on a scripted device. -/
def startedPaused : Schedule Device.Scripted :=
  Schedule.start (Player.start (.start ⟨2, 2⟩ true) .standard) (Device.Scripted.ofViewport ⟨2, 2⟩)

/-- The second frame hands its pause to the timeline, and in the end a resumption waits. -/
theorem latched_resumedEarly :
    (startedPaused.serveAll resumedEarly).player.inputs.pending.isPending .resume = true ∧
      ∃ frame last, [frame, last] <:+ framesOf 1 (startedPaused.history resumedEarly) ∧
        frame.inputs.pending.reset = false ∧ frame.receives .pause = true := by
  obtain ⟨_, resume, _, received⟩ := latched_matches_flag ⟨2, 2⟩ true .standard
    (Device.Scripted.ofViewport ⟨2, 2⟩) resumedEarly
  refine ⟨resume.mpr ⟨rfl, rfl⟩, _, _, List.suffix_rfl, rfl, ?_⟩
  exact (received 1 _ _ [] List.suffix_rfl rfl).2.1.mpr ⟨rfl, rfl⟩

end LiveShader.Session
