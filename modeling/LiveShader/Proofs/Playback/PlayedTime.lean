import LiveShader.Proofs.Playback.Change

/-!
# The time that a timeline has played

A started timeline knows how long it has played: the distance from its origin to
the instant at which the running pause began, or to the last frame if there is no
pause.  A frame adds the time since the last frame if that frame saw no pause, and
a reset begins again at zero.

The differences of instants that a frame takes are all of a later instant and an
earlier one, as long as the instants of the frames do not decrease.
-/

namespace LiveShader.Playback.Timeline

open LiveShader.Playback

/-! ## The parts of an advanced timeline -/

section Parts

variable (timeline : Timeline) (now : Instant) (paused : Bool) (pending : Pending)

/-- The timeline after the waiting actions of a frame. -/
def moved : Timeline := (timeline.applyActions now pending).1

/-- The instant up to which the elapsed time is measured. -/
def effective : Instant :=
  match paused, timeline.pauseStart with
  | true, some start => start
  | _, _ => now

theorem elapsedTime_eq {origin : Instant} (started : timeline.origin = some origin) :
    timeline.elapsedTime now paused = elapsedSince (timeline.effective now paused) origin := by
  simp only [elapsedTime, effective]
  rw [started]
  cases paused <;> cases timeline.pauseStart <;> rfl

theorem advance_elapsed :
    (timeline.advance now paused pending).1.elapsed =
      Duration.seconds ((timeline.moved now pending).elapsedTime now paused) := rfl

theorem advance_origin :
    (timeline.advance now paused pending).2.1.origin = (timeline.moved now pending).origin := rfl

theorem advance_pauseStart :
    (timeline.advance now paused pending).2.1.pauseStart =
      (timeline.moved now pending).pauseStart := rfl

theorem advance_pending :
    (timeline.advance now paused pending).2.2 = remaining pending := rfl

theorem moved_of_unstarted (unstarted : timeline.origin = none) :
    timeline.moved now pending = timeline.restart now := by
  rw [moved, applyActions]
  rw [unstarted]

theorem moved_of_reset (reset : pending.reset = true) :
    timeline.moved now pending = timeline.restart now := by
  rw [moved, applyActions]
  rw [reset]
  cases timeline.origin <;> rfl

theorem moved_of_started {origin : Instant} (started : timeline.origin = some origin)
    (noReset : pending.reset = false) :
    timeline.moved now pending =
      (timeline.pauseAt now pending.pause).resumeAt now origin pending.resume := by
  rw [moved, applyActions]
  rw [started, noReset]

end Parts

/-! ## The time played so far -/

/--
The timeline of a session whose last frame ran at `last` with the pause flag
`paused`, after `played` nanoseconds of playing.
-/
structure HasPlayed (timeline : Timeline) (played : Duration) (last : Instant) (paused : Bool) :
    Prop where
  lastSample : timeline.lastSample = some last
  /-- The played time ends where the pause began, or at the last frame. -/
  measured : ∃ origin, timeline.origin = some origin ∧
    if paused then timeline.pauseStart = some (origin + played) ∧ origin + played ≤ last
    else origin + played = last

/-- The played time after another frame. -/
def nextPlayed (played : Duration) (last now : Instant) (wasPaused reset : Bool) : Duration :=
  if reset then 0 else if wasPaused then played else played + (now - last)

/--
No difference of instants that a frame takes is cut off at zero: neither that of
the pause which ends, nor that of the elapsed time, nor that of the frame rate.
-/
structure NeverSaturates (timeline : Timeline) (now : Instant) (paused : Bool)
    (pending : Pending) : Prop where
  pause : timeline.origin.isSome → pending.reset = false → pending.resume = true →
    (timeline.pauseAt now pending.pause).pauseStart.getD now ≤ now
  elapsed : ∀ origin, (timeline.moved now pending).origin = some origin →
    origin ≤ (timeline.moved now pending).effective now paused
  rate : ∀ last, (timeline.moved now pending).lastSample = some last → last ≤ now

/-- A timeline that begins at a frame has played nothing there. -/
theorem hasPlayed_of_restart {timeline : Timeline} {now : Instant} {pending : Pending}
    (restarted : timeline.moved now pending = timeline.restart now) (paused : Bool) :
    (timeline.advance now paused pending).1.elapsed = Duration.seconds 0 ∧
      (timeline.advance now paused pending).2.1.HasPlayed 0 now paused := by
  constructor
  · rw [advance_elapsed, restarted]
    have started : (timeline.restart now).origin = some now := rfl
    rw [elapsedTime_eq _ _ _ started]
    cases paused <;> simp [effective, restart, elapsedSince]
  · refine ⟨rfl, now, ?_, ?_⟩
    · rw [advance_origin, restarted]
      rfl
    · rw [advance_pauseStart, restarted]
      cases paused <;> simp [restart]

/-- Neither is a difference cut off there. -/
theorem neverSaturates_of_restart {timeline : Timeline} {now : Instant} {pending : Pending}
    (restarted : timeline.moved now pending = timeline.restart now) (paused : Bool)
    (begins : timeline.origin = none ∨ pending.reset = true)
    (ordered : ∀ last, timeline.lastSample = some last → last ≤ now) :
    timeline.NeverSaturates now paused pending where
  pause := by
    intro started noReset
    rcases begins with unstarted | reset
    · rw [unstarted] at started
      cases started
    · rw [reset] at noReset
      cases noReset
  elapsed := by
    intro origin equal
    rw [restarted] at equal ⊢
    cases equal
    cases paused <;> simp [effective, restart]
  rate := by
    intro last equal
    rw [restarted] at equal
    exact ordered last equal

/-! ## One frame -/

section Step

variable {timeline : Timeline} {played : Duration} {last now : Instant}
variable {wasPaused paused : Bool} {pending : Pending}

/--
The origin and the pause of a started timeline after the waiting actions: the
elapsed time is then measured from the new origin over the new played time.
-/
theorem HasPlayed.moved_measured (history : timeline.HasPlayed played last wasPaused)
    (ordered : last ≤ now) (fits : pending.Matches wasPaused paused)
    (noReset : pending.reset = false) :
    ∃ origin, (timeline.moved now pending).origin = some origin ∧
      (timeline.moved now pending).effective now paused =
        origin + nextPlayed played last now wasPaused false ∧
      (paused = true → (timeline.moved now pending).pauseStart =
        some (origin + nextPlayed played last now wasPaused false)) ∧
      origin + nextPlayed played last now wasPaused false ≤ now ∧
      (paused = false → origin + nextPlayed played last now wasPaused false = now) := by
  rcases history.measured with ⟨origin, started, measured⟩
  have pause := fits.pause
  have resume := fits.resume
  rw [moved_of_started _ _ _ started noReset]
  cases wasPaused with
  | false =>
      have ends : origin + played = last := by simpa using measured
      have plays : origin + (played + (now - last)) = now := by
        rw [← Nat.add_assoc, ends]
        exact Nat.add_sub_cancel' ordered
      cases paused with
      | false =>
          simp only [Bool.not_false, Bool.and_false, Bool.false_and] at pause resume
          refine ⟨origin, ?_, ?_, ?_, ?_, ?_⟩ <;>
            simp_all [pauseAt, resumeAt, effective, nextPlayed]
      | true =>
          simp only [Bool.not_false, Bool.and_true, Bool.not_true, Bool.and_false] at pause resume
          refine ⟨origin, ?_, ?_, ?_, ?_, ?_⟩ <;>
            simp_all [pauseAt, resumeAt, effective, nextPlayed]
  | true =>
      have frozen : timeline.pauseStart = some (origin + played) ∧ origin + played ≤ last := by
        simpa using measured
      cases paused with
      | false =>
          -- The origin moves so that the pause leaves the played time as it was.
          have shifted : origin + (now - (origin + played)) + played = now := by
            rw [Nat.add_right_comm]
            exact Nat.add_sub_cancel' (Nat.le_trans frozen.2 ordered)
          simp only [Bool.not_true, Bool.and_false, Bool.true_and, Bool.not_false] at pause resume
          refine ⟨origin + (now - (origin + played)), ?_, ?_, ?_, ?_, ?_⟩ <;>
            simp_all [pauseAt, resumeAt, effective, nextPlayed, elapsedSince]
      | true =>
          have within : origin + played ≤ now := Nat.le_trans frozen.2 ordered
          simp only [Bool.not_true, Bool.and_true, Bool.true_and, Bool.not_true] at pause resume
          refine ⟨origin, ?_, ?_, ?_, ?_, ?_⟩ <;>
            simp_all [pauseAt, resumeAt, effective, nextPlayed]

/-- The pause that ends at a frame began no later than the frame. -/
theorem HasPlayed.pauseStart_le (history : timeline.HasPlayed played last wasPaused)
    (ordered : last ≤ now) (fits : pending.Matches wasPaused paused)
    (resuming : pending.resume = true) :
    (timeline.pauseAt now pending.pause).pauseStart.getD now ≤ now := by
  rcases history.measured with ⟨origin, started, measured⟩
  have pause := fits.pause
  have resume := fits.resume
  cases wasPaused with
  | false =>
      rw [resuming] at resume
      cases resume
  | true =>
      have frozen : timeline.pauseStart = some (origin + played) ∧ origin + played ≤ last := by
        simpa using measured
      have noPause : pending.pause = false := by
        rw [pause]
        rfl
      have within : origin + played ≤ now := Nat.le_trans frozen.2 ordered
      simpa [pauseAt, noPause, frozen.1] using within

theorem moved_lastSample (timeline : Timeline) (now : Instant) (pending : Pending) :
    (timeline.moved now pending).lastSample = timeline.lastSample := by
  rw [moved, applyActions]
  split
  · rw [resumeAt, pauseAt]
    split <;> split <;> rfl
  · rfl

/--
A frame shows the played time, keeps account of it, and cuts off no difference of
instants.
-/
theorem HasPlayed.advance (history : timeline.HasPlayed played last wasPaused)
    (ordered : last ≤ now) (fits : pending.Matches wasPaused paused) :
    (timeline.advance now paused pending).1.elapsed =
        Duration.seconds (nextPlayed played last now wasPaused pending.reset) ∧
      (timeline.advance now paused pending).2.1.HasPlayed
        (nextPlayed played last now wasPaused pending.reset) now paused ∧
      timeline.NeverSaturates now paused pending := by
  have sampled : ∀ sample, timeline.lastSample = some sample → sample ≤ now := by
    intro sample equal
    rw [history.lastSample] at equal
    cases equal
    exact ordered
  cases reset : pending.reset with
  | true =>
      have restarted := moved_of_reset timeline now pending reset
      obtain ⟨elapsed, continued⟩ := hasPlayed_of_restart restarted paused
      exact ⟨elapsed, continued,
        neverSaturates_of_restart restarted paused (Or.inr reset) sampled⟩
  | false =>
      obtain ⟨origin, started, effective, frozen, within, playing⟩ :=
        history.moved_measured ordered fits reset
      refine ⟨?_, ⟨rfl, origin, ?_, ?_⟩, ⟨?_, ?_, ?_⟩⟩
      · rw [advance_elapsed, elapsedTime_eq _ _ _ started, effective]
        rw [elapsedSince]
        rw [Nat.add_sub_cancel_left]
      · rw [advance_origin, started]
      · rw [advance_pauseStart]
        cases paused with
        | true => exact ⟨frozen rfl, within⟩
        | false => exact playing rfl
      · intro _ _ resuming
        exact history.pauseStart_le ordered fits resuming
      · intro found equal
        rw [started] at equal
        cases equal
        rw [effective]
        exact Nat.le_add_right _ _
      · intro sample equal
        rw [moved_lastSample] at equal
        exact sampled sample equal

/-- The first frame of a session begins the account at zero. -/
theorem advance_unstarted (unstarted : timeline.origin = none)
    (unsampled : timeline.lastSample = none) :
    (timeline.advance now paused pending).1.elapsed = Duration.seconds 0 ∧
      (timeline.advance now paused pending).2.1.HasPlayed 0 now paused ∧
      timeline.NeverSaturates now paused pending := by
  have restarted := moved_of_unstarted timeline now pending unstarted
  obtain ⟨elapsed, continued⟩ := hasPlayed_of_restart restarted paused
  refine ⟨elapsed, continued,
    neverSaturates_of_restart restarted paused (Or.inl unstarted) ?_⟩
  intro sample equal
  rw [unsampled] at equal
  cases equal

end Step

end LiveShader.Playback.Timeline
