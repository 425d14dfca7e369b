import LiveShader.Proofs.Playback.Readout
import LiveShader.Proofs.Session.PlayedTime

/-!
# Readouts that reach the host

A session decides on a readout before it knows whether the frame can be drawn.  If the frame
is skipped, the readout is lost, but the timeline remembers it as if it had been shown.

Every frame of a session resumes where the last one left the timeline.  So at every frame the
newest readout that was decided on is within the threshold of the frame's elapsed time.  What
the host was given last is this readout exactly if the frame that decided on it was rendered;
otherwise it is what the host had before.

A readout has no rate if no time has passed since the last frame of the session, or if it is
shown during a pause and the session was not reset.
-/

namespace LiveShader.Session

open LiveShader.Playback

variable {δ : Type} [Device δ]

/-! ## Frames that resume -/

/-- The timeline that a frame leaves. -/
def Accepted.left (frame : Accepted) : Timeline :=
  (frame.timeline.advance frame.now frame.inputs.paused frame.inputs.pending).2.1

/-- A timeline and inputs are new, or they are what the newest frame left and a host changed. -/
def Resumes (timeline : Timeline) (inputs : Inputs) : List Accepted → Prop
  | [] => timeline = .unstarted
  | last :: _ => timeline = last.left ∧ inputs.Matches last.inputs.paused

theorem Resumes.change {timeline : Timeline} {inputs : Inputs} {past : List Accepted}
    (resumes : Resumes timeline inputs past) (change : Change) :
    Resumes timeline (change.apply inputs) past := by
  cases past with
  | nil => exact resumes
  | cons last earlier => exact ⟨resumes.1, resumes.2.apply change⟩

/-- A session that had a frame has begun. -/
theorem Resumes.started {timeline : Timeline} {inputs : Inputs} {last : Accepted}
    {earlier : List Accepted} (resumes : Resumes timeline inputs (last :: earlier)) :
    timeline.origin.isSome = true := by
  rw [resumes.1]
  exact Timeline.isSome_moved_origin _ _ _

/-- The installed session resumes where its own frames stopped. -/
def Player.ResumesAfter (player : Player δ) (frames : List Accepted) : Prop :=
  ∀ session, player.session = some session →
    Resumes session.timeline player.inputs (framesOf session.id frames)

/-- Every frame resumed where the earlier frames of its session had stopped. -/
def AllResume (frames : List Accepted) : Prop :=
  ∀ session frame earlier, frame :: earlier <:+ framesOf session frames →
    Resumes frame.timeline frame.inputs earlier

section Steps

variable {player : Player δ} {frames : List Accepted}

theorem Player.ResumesAfter.reload (accounted : Accounted player frames) (device : δ)
    (source : String) (controls : List Control.Spec) :
    (player.reload device source controls).player.ResumesAfter frames := by
  intro session present
  rcases player.reload_player device source controls with ⟨error, equal⟩ | ⟨later, program, equal⟩
  · rw [equal, player.ended.failed_session] at present
    cases present
  · rw [equal] at present
    cases present
    have noFrame : framesOf player.ended.nextSession frames = [] := by
      rw [player.ended_nextSession]
      exact framesOf_eq_nil accounted.older
    simp only [noFrame]
    exact rfl

theorem Player.ResumesAfter.frame {ticket : Ticket} {session : Session δ}
    (accepted : player.accepting? ticket = some session) (device : δ) (now : Instant) :
    (player.runFrame device ticket now).player.ResumesAfter
      (player.record session now :: frames) := by
  rw [Player.runFrame_of_accepting accepted]
  intro later present
  cases present
  rw [frame_session]
  change Resumes _ _ (framesOf session.id _)
  rw [framesOf_record]
  exact ⟨rfl, frame_inputs_matches session device player.inputs now⟩

theorem AllResume.frame (all : AllResume frames) (installed : player.ResumesAfter frames)
    {ticket : Ticket} {session : Session δ}
    (accepted : player.accepting? ticket = some session) (now : Instant) :
    AllResume (player.record session now :: frames) := by
  intro id frame earlier run
  rcases suffix_framesOf_cons run with ⟨rfl, rfl, rfl⟩ | old
  · exact installed session (Player.session_of_accepting accepted)
  · exact all id frame earlier old

/-- One request leaves the installed session where its frames stopped. -/
theorem Player.ResumesAfter.serve {schedule : Schedule δ}
    (installed : schedule.player.ResumesAfter frames) (accounted : Accounted schedule.player frames)
    (all : AllResume frames) (request : Request) :
    (schedule.serve request).player.ResumesAfter
        ((schedule.accepted? request).toList ++ frames) ∧
      AllResume ((schedule.accepted? request).toList ++ frames) := by
  cases request with
  | change change => exact ⟨fun session present => (installed session present).change change, all⟩
  | reload source controls =>
      rw [Schedule.serve_reload_player]
      exact ⟨.reload accounted schedule.device source controls, all⟩
  | shutdown =>
      rw [Schedule.serve_shutdown_player]
      exact ⟨fun session => nofun, all⟩
  | frame ticket now =>
      rw [Schedule.serve_frame_player]
      simp only [Schedule.accepted?]
      cases accepted : schedule.player.accepting? ticket with
      | none =>
          rw [Player.runFrame_of_rejecting accepted]
          exact ⟨installed, all⟩
      | some session =>
          exact ⟨.frame accepted schedule.device now, all.frame installed accepted now⟩

theorem resumes_serveAll (inputs : Inputs) (builtins : Program.BuiltinNames) (device : δ)
    (requests : List Request) :
    let start := Schedule.start (Player.start inputs builtins) device
    (start.serveAll requests).player.ResumesAfter (start.history requests) ∧
      AllResume (start.history requests) := by
  intro start
  induction requests using List.reverseRecOn with
  | nil =>
      refine ⟨fun session => nofun, ?_⟩
      intro session frame earlier run
      cases List.suffix_nil.mp run
  | append_singleton requests request ih =>
      rw [Schedule.serveAll_append, Schedule.history_concat]
      have accounted := (accounted_serveAll inputs builtins device requests).1
      exact ih.1.serve accounted ih.2 request

end Steps

/-! ## Frames and what became of them -/

/-- An accepted frame and what became of it. -/
structure Attempt where
  frame : Accepted
  outcome : Outcome

namespace Attempt

/-- Whether the frame reached the host. -/
def IsRendered (attempt : Attempt) : Prop := ∃ report, attempt.outcome = .rendered report

/-- The readout that the host was given, if any. -/
def readout? (attempt : Attempt) : Option Readout :=
  match attempt.outcome with
  | .rendered report => report.readout
  | .skipped _ | .cancelled => none

/-- What a rendered frame reports is what the timeline made of it. -/
def Reports (attempt : Attempt) : Prop :=
  ∀ report, attempt.outcome = .rendered report →
    report.elapsed = attempt.frame.sample.elapsed ∧ report.readout = attempt.frame.sample.readout

end Attempt

namespace Schedule

/-- The frame that a request makes the player accept, and what becomes of it. -/
def attempt? (schedule : Schedule δ) (request : Request) : Option Attempt :=
  (schedule.accepted? request).bind fun frame =>
    (schedule.outcome? request).map fun outcome => ⟨frame, outcome⟩

/-- The frames that are accepted while requests are served, the newest first. -/
def attempts (schedule : Schedule δ) : List Request → List Attempt
  | [] => []
  | request :: rest => (schedule.serve request).attempts rest ++ (schedule.attempt? request).toList

theorem map_frame_attempt? (schedule : Schedule δ) (request : Request) :
    (schedule.attempt? request).map Attempt.frame = schedule.accepted? request := by
  cases request with
  | frame ticket now =>
      cases accepted : schedule.accepted? (.frame ticket now) <;>
        simp [attempt?, accepted, outcome?]
  | change change => rfl
  | reload source controls => rfl
  | shutdown => rfl

theorem map_frame_attempts (schedule : Schedule δ) (requests : List Request) :
    (schedule.attempts requests).map Attempt.frame = schedule.history requests := by
  induction requests generalizing schedule with
  | nil => rfl
  | cons request rest ih =>
      rw [attempts, history, List.map_append, ih, ← map_frame_attempt?, Option.toList_map]

theorem reports_of_attempt? {schedule : Schedule δ} {request : Request} {attempt : Attempt}
    (made : schedule.attempt? request = some attempt) : attempt.Reports := by
  cases request with
  | change change => cases made
  | reload source controls => cases made
  | shutdown => cases made
  | frame ticket now =>
      intro report rendered
      simp only [attempt?, accepted?, outcome?] at made
      cases accepted : schedule.player.accepting? ticket with
      | none =>
          rw [accepted] at made
          cases made
      | some session =>
          rw [accepted, Player.runFrame_of_accepting accepted] at made
          cases made
          obtain ⟨_, _, rfl, _⟩ := frame_of_rendered rendered
          exact ⟨rfl, rfl⟩

theorem reports_of_mem_attempts {schedule : Schedule δ} {requests : List Request}
    {attempt : Attempt} (member : attempt ∈ schedule.attempts requests) : attempt.Reports := by
  induction requests generalizing schedule with
  | nil => cases member
  | cons request rest ih =>
      rcases List.mem_append.mp member with later | first
      · exact ih later
      · exact reports_of_attempt? (Option.mem_toList.mp first)

end Schedule

/-- The frames of one session. -/
def attemptsOf (session : Id) (attempts : List Attempt) : List Attempt :=
  attempts.filter fun attempt => attempt.frame.session = session

theorem map_frame_attemptsOf (session : Id) (attempts : List Attempt) :
    (attemptsOf session attempts).map Attempt.frame =
      framesOf session (attempts.map Attempt.frame) := by
  rw [framesOf, List.filter_map]
  rfl

/-- Frames of one session, the newest first, each of which resumes where the last one stopped. -/
def Unbroken (attempts : List Attempt) : Prop :=
  ∀ attempt past, attempt :: past <:+ attempts →
    Resumes attempt.frame.timeline attempt.frame.inputs (past.map Attempt.frame)

theorem Unbroken.head {attempt : Attempt} {past : List Attempt}
    (unbroken : Unbroken (attempt :: past)) :
    Resumes attempt.frame.timeline attempt.frame.inputs (past.map Attempt.frame) :=
  unbroken attempt past List.suffix_rfl

theorem Unbroken.of_suffix {attempts past : List Attempt} (unbroken : Unbroken attempts)
    (part : past <:+ attempts) : Unbroken past :=
  fun attempt before run => unbroken attempt before (run.trans part)

/-! ## The newest readout -/

/--
Of some frames of a session, the newest first, the newest one that decided on a readout, with
that readout and the frames before it.
-/
inductive Decides : List Attempt → Attempt → Readout → List Attempt → Prop where
  | here {attempt : Attempt} {readout : Readout} {before : List Attempt}
      (decided : attempt.frame.sample.readout = some readout) :
      Decides (attempt :: before) attempt readout before
  | earlier {attempt decider : Attempt} {readout : Readout} {attempts before : List Attempt}
      (undecided : attempt.frame.sample.readout = none)
      (decides : Decides attempts decider readout before) :
      Decides (attempt :: attempts) decider readout before

/-- The readout that the host was given last. -/
def delivered? (attempts : List Attempt) : Option Readout := attempts.findSome? Attempt.readout?

/-- The host was given a readout, and the last one is within the threshold of an elapsed time. -/
def Fresh (elapsed : Number.Single) (attempts : List Attempt) : Prop :=
  ∃ readout, delivered? attempts = some readout ∧ Within elapsed readout.elapsed

section Decided

variable {current decider : Attempt} {readout : Readout} {attempts earlier before : List Attempt}

theorem Attempt.readout?_of_undecided {attempt : Attempt} (reports : attempt.Reports)
    (undecided : attempt.frame.sample.readout = none) : attempt.readout? = none := by
  rw [Attempt.readout?]
  split
  · rename_i report rendered
    exact (reports report rendered).2.trans undecided
  · rfl
  · rfl

/-- A readout that was decided on reaches the host exactly if its frame is rendered. -/
theorem Decides.delivered (decides : Decides attempts decider readout before)
    (reports : ∀ attempt ∈ attempts, attempt.Reports) :
    (decider.IsRendered → delivered? attempts = some readout) ∧
      (¬ decider.IsRendered → delivered? attempts = delivered? before) := by
  induction decides with
  | @here attempt readout before decided =>
      constructor
      · rintro ⟨report, rendered⟩
        have given : attempt.readout? = some readout := by
          rw [Attempt.readout?, rendered]
          exact (reports attempt (by simp) report rendered).2.trans decided
        simp [delivered?, given]
      · intro lost
        have nothing : attempt.readout? = none := by
          rw [Attempt.readout?]
          split
          · rename_i report rendered
            exact absurd ⟨report, rendered⟩ lost
          · rfl
          · rfl
        simp [delivered?, nothing]
  | @earlier attempt decider readout attempts before undecided decides ih =>
      have nothing := Attempt.readout?_of_undecided (reports attempt (by simp)) undecided
      have same : delivered? (attempt :: attempts) = delivered? attempts := by
        simp [delivered?, nothing]
      rw [same]
      exact ih fun other member => reports other (List.mem_cons_of_mem attempt member)

theorem Decides.fresh_iff (decides : Decides attempts decider readout before)
    (reports : ∀ attempt ∈ attempts, attempt.Reports) {elapsed : Number.Single}
    (close : Within elapsed readout.elapsed) :
    Fresh elapsed attempts ↔ decider.IsRendered ∨ Fresh elapsed before := by
  obtain ⟨reaches, lost⟩ := decides.delivered reports
  by_cases rendered : decider.IsRendered
  · exact iff_of_true ⟨readout, reaches rendered, close⟩ (Or.inl rendered)
  · rw [Fresh, lost rendered]
    exact (or_iff_right rendered).symm

theorem Decides.decided (decides : Decides attempts decider readout before) :
    decider.frame.sample.readout = some readout := by
  induction decides with
  | here decided => exact decided
  | earlier undecided decides ih => exact ih

theorem Decides.mem (decides : Decides attempts decider readout before) : decider ∈ attempts := by
  induction decides with
  | here decided => exact List.mem_cons_self
  | earlier undecided decides ih => exact List.mem_cons_of_mem _ ih

theorem Decides.isNonnegative (decides : Decides attempts decider readout before) :
    readout.elapsed.IsNonnegative := by
  rw [Timeline.elapsed_of_readout decides.decided]
  exact Timeline.isNonnegative_elapsed _ _ _ _

/--
Some frame decided on a readout, the timeline remembers the newest one, and it is within the
threshold of the current frame.
-/
theorem exists_decides (unbroken : Unbroken (current :: earlier)) :
    ∃ decider readout before, Decides (current :: earlier) decider readout before ∧
      current.frame.left.lastReadout = some readout.elapsed ∧
      Within current.frame.sample.elapsed readout.elapsed := by
  induction earlier generalizing current with
  | nil =>
      have new : current.frame.timeline = .unstarted := unbroken.head
      cases decided : current.frame.sample.readout with
      | some readout =>
          exact ⟨current, readout, [], .here decided, Timeline.lastReadout_of_decided decided,
            Or.inl (Timeline.elapsed_of_readout decided).symm⟩
      | none =>
          obtain ⟨last, remembered, _⟩ := Timeline.lastReadout_of_undecided decided
          rw [new] at remembered
          cases remembered
  | cons last earlier ih =>
      obtain ⟨resumed, _⟩ := unbroken.head
      cases decided : current.frame.sample.readout with
      | some readout =>
          exact ⟨current, readout, _, .here decided, Timeline.lastReadout_of_decided decided,
            Or.inl (Timeline.elapsed_of_readout decided).symm⟩
      | none =>
          obtain ⟨decider, readout, before, decides, kept, _⟩ :=
            ih (unbroken.of_suffix (List.suffix_cons current _))
          obtain ⟨other, remembered, left, close⟩ := Timeline.lastReadout_of_undecided decided
          rw [resumed, kept] at remembered
          cases remembered
          exact ⟨decider, readout, before, .earlier decided decides, left,
            (within_iff (Timeline.isNonnegative_elapsed _ _ _ _) decides.isNonnegative).mpr close⟩

end Decided

/-! ## The rate of a readout -/

section Rates

variable {current : Attempt} {earlier : List Attempt}

/-- Whether a frame is later than the frame of its session before it, and there is one. -/
def LaterThanLast (current : Attempt) (earlier : List Attempt) : Prop :=
  ∃ last before, earlier = last :: before ∧ last.frame.now < current.frame.now

theorem laterThanLast_iff
    (resumes : Resumes current.frame.timeline current.frame.inputs (earlier.map Attempt.frame)) :
    LaterThanLast current earlier ↔
      ¬ ∀ last, current.frame.timeline.lastSample = some last → current.frame.now ≤ last := by
  cases earlier with
  | nil =>
      have new : current.frame.timeline = .unstarted := resumes
      rw [new]
      simp [LaterThanLast, Timeline.unstarted]
  | cons last before =>
      have sampled : current.frame.timeline.lastSample = some last.frame.now := by
        rw [resumes.1]
        rfl
      simp [LaterThanLast, sampled]

/-- A pause begins at a frame that is paused after one that was not, unless it resets. -/
theorem pausing_iff
    (resumes : Resumes current.frame.timeline current.frame.inputs (earlier.map Attempt.frame)) :
    current.frame.timeline.pausing current.frame.now current.frame.inputs.pending = true ↔
      current.frame.inputs.paused = true ∧ current.frame.inputs.pending.reset = false ∧
        ∃ last before, earlier = last :: before ∧ last.frame.inputs.paused = false := by
  rw [Timeline.pausing_eq]
  cases earlier with
  | nil =>
      have new : current.frame.timeline = .unstarted := resumes
      simp [new, Timeline.unstarted]
  | cons last before =>
      rw [Resumes.started resumes, resumes.2.pause]
      simp only [Bool.true_and, Bool.and_eq_true, Bool.not_eq_true']
      constructor
      · rintro ⟨noReset, was, paused⟩
        exact ⟨paused, noReset, last, before, rfl, was⟩
      · rintro ⟨paused, noReset, _, _, equal, was⟩
        cases equal
        exact ⟨noReset, was, paused⟩

/-- A started session knows when its last pause began. -/
theorem isSome_pauseStart (unbroken : Unbroken (current :: earlier))
    (started : current.frame.timeline.origin.isSome = true) :
    current.frame.timeline.pauseStart.isSome = true := by
  induction earlier generalizing current with
  | nil =>
      have new : current.frame.timeline = .unstarted := unbroken.head
      rw [new] at started
      cases started
  | cons last before ih =>
      rw [unbroken.head.1]
      exact Timeline.isSome_moved_pauseStart
        (ih (unbroken.of_suffix (List.suffix_cons current _)))

/-- A frame that is paused like the one before it, and does not reset, decides on nothing. -/
theorem readout_of_paused {last : Attempt} {before : List Attempt}
    (unbroken : Unbroken (current :: last :: before)) (was : last.frame.inputs.paused = true)
    (paused : current.frame.inputs.paused = true)
    (noReset : current.frame.inputs.pending.reset = false) :
    current.frame.sample.readout = none := by
  obtain ⟨resumed, fits⟩ := unbroken.head
  have paired := isSome_pauseStart (unbroken.of_suffix (List.suffix_cons current _))
  rw [Inputs.Matches, was, paused] at fits
  rw [Accepted.sample, paused, resumed, Accepted.left, was]
  exact Timeline.readout_of_frozen paired fits noReset

/-- The rate is missing if no time has passed, or during a pause without a reset. -/
theorem rate_eq_none_iff (unbroken : Unbroken (current :: earlier)) {readout : Readout}
    (decided : current.frame.sample.readout = some readout) :
    readout.rate = none ↔ ¬ LaterThanLast current earlier ∨
      (current.frame.inputs.paused = true ∧ current.frame.inputs.pending.reset = false) := by
  have late := not_iff_comm.mp (laterThanLast_iff unbroken.head).symm
  rw [Timeline.rate_eq_none_iff decided, pausing_iff unbroken.head, ← late]
  constructor
  · rintro (⟨paused, noReset, _⟩ | notLater)
    · exact Or.inr ⟨paused, noReset⟩
    · exact Or.inl notLater
  · rintro (notLater | ⟨paused, noReset⟩)
    · exact Or.inr notLater
    · cases earlier with
      | nil =>
          refine Or.inr ?_
          rintro ⟨last, before, equal, _⟩
          cases equal
      | cons last before =>
          cases was : last.frame.inputs.paused with
          | false => exact Or.inl ⟨paused, noReset, last, before, rfl, was⟩
          | true =>
              -- Such a frame decides on nothing, so there is no readout to speak of.
              cases (readout_of_paused unbroken was paused noReset).symm.trans decided

end Rates

/-! ## A whole run -/

section Run

variable {inputs : Inputs} {builtins : Program.BuiltinNames} {device : δ}
  {requests : List Request} {session : Id} {current : Attempt} {earlier : List Attempt}

/-- The frames of a session resume one after the other, in every run. -/
theorem unbroken_attemptsOf :
    Unbroken (attemptsOf session
      ((Schedule.start (Player.start inputs builtins) device).attempts requests)) := by
  intro attempt past run
  have frames := run.map Attempt.frame
  rw [map_frame_attemptsOf, Schedule.map_frame_attempts] at frames
  exact (resumes_serveAll inputs builtins device requests).2 session attempt.frame _ frames

theorem reports_of_run
    (run : current :: earlier <:+ attemptsOf session
      ((Schedule.start (Player.start inputs builtins) device).attempts requests)) :
    ∀ attempt ∈ current :: earlier, attempt.Reports := by
  intro attempt member
  exact Schedule.reports_of_mem_attempts (List.mem_of_mem_filter (run.subset member))

/--
The host has a fresh readout exactly if it was not lost.  Take any run, any of its sessions,
and a frame of it that is rendered, with the earlier frames of the session.  Some frame so far
decided on a readout, and the newest one is within the threshold of the elapsed time that the
frame reports.  The last readout that reached the host is within the threshold exactly if
the frame that decided on that newest one was rendered, or if what reached the host before that
frame is still within the threshold.
-/
theorem readout_fresh_iff
    (run : current :: earlier <:+ attemptsOf session
      ((Schedule.start (Player.start inputs builtins) device).attempts requests))
    {report : Report} (rendered : current.outcome = .rendered report) :
    ∃ decider readout before, Decides (current :: earlier) decider readout before ∧
      Within report.elapsed readout.elapsed ∧
      (Fresh report.elapsed (current :: earlier) ↔
        decider.IsRendered ∨ Fresh report.elapsed before) := by
  have reports := reports_of_run run
  obtain ⟨decider, readout, before, decides, _, close⟩ :=
    exists_decides (unbroken_attemptsOf.of_suffix run)
  rw [← (reports current (by simp) report rendered).1] at close
  exact ⟨decider, readout, before, decides, close, decides.fresh_iff reports close⟩

end Run

/-- Two frames of a session on a device, ten milliseconds apart; the newest comes first. -/
def twoFrames (device : Device.Scripted) : List Attempt :=
  attemptsOf 1 ((Schedule.start (Player.start (.start ⟨4, 4⟩ false) .standard) device).attempts
    [.reload "void main() \x7b\x7d" [], .frame ⟨1⟩ 0, .frame ⟨1⟩ 10000000])

/-- If both are rendered, the readout of the first one is still fresh at the second. -/
theorem readout_fresh_twoFrames :
    ∃ current earlier report, twoFrames (.ofViewport ⟨4, 4⟩) = current :: earlier ∧
      current.outcome = .rendered report ∧
      Fresh report.elapsed (twoFrames (.ofViewport ⟨4, 4⟩)) := by
  obtain ⟨current, first, frames, ⟨report, rendered⟩, shown⟩ : ∃ current first,
      twoFrames (.ofViewport ⟨4, 4⟩) = [current, first] ∧ current.IsRendered ∧
        first.IsRendered := ⟨_, _, rfl, ⟨_, rfl⟩, ⟨_, rfl⟩⟩
  have run : [current, first] <:+ twoFrames (.ofViewport ⟨4, 4⟩) := frames ▸ List.suffix_rfl
  obtain ⟨decider, readout, before, decides, _, fresh⟩ := readout_fresh_iff run rendered
  have reached : decider.IsRendered := by
    rcases List.mem_cons.mp decides.mem with rfl | rest
    · exact ⟨report, rendered⟩
    · rw [List.mem_singleton.mp rest]
      exact shown
  refine ⟨current, [first], report, frames, rendered, ?_⟩
  rw [frames]
  exact fresh.mpr (Or.inl reached)

/-- If the first one is skipped, the host has no readout at the second. -/
theorem readout_lost_twoFrames :
    let frames := twoFrames { Device.Scripted.ofViewport ⟨4, 4⟩ with beginErrors := [.timeout] }
    InOrder (frames.map Attempt.frame) ∧
      ∃ current earlier report, frames = current :: earlier ∧
        current.outcome = .rendered report ∧ ¬ Fresh report.elapsed frames := by
  intro frames
  have ordered : InOrder (frames.map Attempt.frame) := by
    rw [InOrder]
    decide
  obtain ⟨current, first, equal, report, rendered⟩ : ∃ current first,
      frames = [current, first] ∧ current.IsRendered := ⟨_, _, rfl, ⟨_, rfl⟩⟩
  refine ⟨ordered, current, [first], report, equal, rendered, ?_⟩
  rintro ⟨readout, given, _⟩
  have nothing : delivered? frames = none := rfl
  cases nothing.symm.trans given

end LiveShader.Session
