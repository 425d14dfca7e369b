import LiveShader.Playback.Clock
import LiveShader.Playback.Pending

/-!
# The timeline of a session

Time runs from an origin, set by the first frame and by every reset.  A pause
keeps the instant at which it began, and resuming moves the origin forward by the
length of the pause, so that the elapsed time never jumps.
-/

namespace LiveShader.Playback

/-- What the host may show of the timeline. -/
structure Readout where
  elapsed : Number.Single
  /-- The frame rate; none when the frame has no earlier one to compare with. -/
  rate : Option Number.Single
  deriving DecidableEq

/-- What a frame learns from the timeline. -/
structure Sample where
  elapsed : Number.Single
  /-- Only on frames on which the shown values should change. -/
  readout : Option Readout
  deriving DecidableEq

/-- The timeline of a session. -/
structure Timeline where
  origin : Option Instant
  /-- When the last pause began. -/
  pauseStart : Option Instant
  lastSample : Option Instant
  /-- The elapsed time of the last readout. -/
  lastReadout : Option Number.Single
  deriving DecidableEq

/-- How far the elapsed time has to move before the next readout, in seconds. -/
def readoutThreshold : Number.Single := ⟨0x3d4ccccd⟩

namespace Timeline

/-- Before the first frame. -/
def unstarted : Timeline := ⟨none, none, none, none⟩

/-- The elapsed time of an instant; zero before the first frame. -/
def elapsedTime (timeline : Timeline) (now : Instant) (paused : Bool) : Duration :=
  match timeline.origin with
  | none => 0
  | some origin =>
      match paused, timeline.pauseStart with
      | true, some start => elapsedSince start origin
      | _, _ => elapsedSince now origin

/-- The elapsed time in seconds. -/
def elapsed (timeline : Timeline) (now : Instant) (paused : Bool) : Number.Single :=
  Duration.seconds (timeline.elapsedTime now paused)

/-- Begins at an instant. -/
def restart (timeline : Timeline) (now : Instant) : Timeline :=
  { timeline with origin := some now, pauseStart := some now, lastReadout := none }

/-- Notes the start of a pause, if one waits. -/
def pauseAt (timeline : Timeline) (now : Instant) (pausing : Bool) : Timeline :=
  if pausing then { timeline with pauseStart := some now } else timeline

/-- Moves the origin forward by the length of a pause, if a resumption waits. -/
def resumeAt (timeline : Timeline) (now origin : Instant) (resuming : Bool) : Timeline :=
  if resuming then
    { timeline with
      origin := some (origin + elapsedSince now (timeline.pauseStart.getD now)) }
  else timeline

/-- The timeline after the waiting actions, and whether a pause began. -/
def applyActions (timeline : Timeline) (now : Instant) (pending : Pending) : Timeline × Bool :=
  match timeline.origin, pending.reset with
  | some origin, false =>
      ((timeline.pauseAt now pending.pause).resumeAt now origin pending.resume, pending.pause)
  | _, _ => (timeline.restart now, false)

/-- The time since the last frame, unless that is zero or there was none. -/
def step? (timeline : Timeline) (now : Instant) : Option Duration :=
  match timeline.lastSample with
  | none => none
  | some last => if elapsedSince now last = 0 then none else some (elapsedSince now last)

/-- The number of frames in a second of such steps. -/
def frameRate (step : Duration) : Number.Single := Number.singleOfInt 1 / Duration.seconds step

/-- Whether the elapsed time moved far enough for another readout. -/
def isDue (timeline : Timeline) (elapsed : Number.Single) : Bool :=
  match timeline.lastReadout with
  | none => true
  | some last => decide (readoutThreshold < (elapsed - last).magnitude)

/-- What the host may show, if it should change. -/
def readout? (timeline : Timeline) (pausing : Bool) (step : Option Duration)
    (elapsed : Number.Single) : Option Readout :=
  if pausing then some ⟨elapsed, none⟩
  else if timeline.isDue elapsed then some ⟨elapsed, step.map frameRate⟩
  else none

/-- The actions that still wait after a frame. -/
def remaining (pending : Pending) : Pending :=
  ((pending.drop .reset).drop .pause).drop .resume

/--
Advances to an instant with the waiting actions.  All of them but a capture are
used up.
-/
def advance (timeline : Timeline) (now : Instant) (paused : Bool) (pending : Pending) :
    Sample × Timeline × Pending :=
  let (moved, pausing) := timeline.applyActions now pending
  let elapsed := moved.elapsed now paused
  let readout := moved.readout? pausing (moved.step? now) elapsed
  let lastReadout := if readout.isSome then some elapsed else moved.lastReadout
  (⟨elapsed, readout⟩,
    { moved with lastSample := some now, lastReadout := lastReadout },
    remaining pending)

end Timeline

end LiveShader.Playback
