import LiveShader.Proofs.Number.Nonnegative
import LiveShader.Proofs.Playback.PlayedTime

/-!
# Readouts of a timeline

A frame decides on a readout if a pause begins there, or if its elapsed time is apart from
that of the last decided readout by more than the threshold, or if there is none since the
origin was set.  The timeline remembers the elapsed time of the last decided readout.  So
after every frame the remembered time is within the threshold of the frame's own.

The rate of a readout is missing in two cases: a pause begins, or no time has passed since
the last frame that could be divided by.
-/

namespace LiveShader.Playback

theorem Duration.isNonnegative_seconds (duration : Duration) :
    (Duration.seconds duration).IsNonnegative := by
  have nanos : Number.decodeSingle (Number.singleOfInt nanosPerSecond) =
      .finite false 15625000 6 := by decide
  have whole := Number.Single.isNonnegative_singleOfInt (duration / nanosPerSecond)
  have rest := Number.Single.isNonnegative_singleOfInt (duration % nanosPerSecond)
  exact whole.add (rest.div nanos (by decide))

/-- Whether two elapsed times are apart by at most the threshold. -/
def Within (elapsed last : Number.Single) : Prop :=
  elapsed = last ∨ (elapsed - last).magnitude ≤ readoutThreshold

theorem within_iff {elapsed last : Number.Single} (left : elapsed.IsNonnegative)
    (right : last.IsNonnegative) :
    Within elapsed last ↔ ¬ readoutThreshold < (elapsed - last).magnitude := by
  constructor
  · rintro (rfl | close)
    · exact Number.Single.not_lt_magnitude_sub_self elapsed (by decide)
    · exact Number.Format.not_less_of_atMost close
  · exact Number.Single.eq_or_le_of_not_lt left right (by decide)

namespace Timeline

variable (timeline : Timeline) (now : Instant) (paused : Bool) (pending : Pending)

/-! ## What a frame decides -/

/-- Whether a pause begins at a frame. -/
def pausing : Bool := (timeline.applyActions now pending).2

theorem pausing_eq :
    timeline.pausing now pending = (timeline.origin.isSome && !pending.reset && pending.pause) := by
  rw [pausing, applyActions]
  cases timeline.origin <;> cases pending.reset <;> rfl

theorem advance_readout :
    (timeline.advance now paused pending).1.readout =
      (timeline.moved now pending).readout? (timeline.pausing now pending)
        ((timeline.moved now pending).step? now)
        (timeline.advance now paused pending).1.elapsed := rfl

theorem advance_lastReadout :
    (timeline.advance now paused pending).2.1.lastReadout =
      if (timeline.advance now paused pending).1.readout.isSome then
        some (timeline.advance now paused pending).1.elapsed
      else (timeline.moved now pending).lastReadout := rfl

theorem isNonnegative_elapsed :
    (timeline.advance now paused pending).1.elapsed.IsNonnegative :=
  Duration.isNonnegative_seconds _

/-- A started timeline remembers the last readout, unless it begins again. -/
theorem moved_lastReadout :
    (timeline.moved now pending).lastReadout =
      if timeline.origin.isSome && !pending.reset then timeline.lastReadout else none := by
  rw [moved, applyActions]
  cases timeline.origin with
  | none => rfl
  | some origin =>
      cases pending.reset with
      | true => rfl
      | false =>
          simp only [resumeAt, pauseAt]
          split <;> split <;> rfl

theorem isSome_moved_origin : (timeline.moved now pending).origin.isSome = true := by
  rw [moved, applyActions]
  cases started : timeline.origin with
  | none => rfl
  | some origin =>
      cases pending.reset with
      | true => rfl
      | false =>
          cases pending.resume <;> cases pending.pause <;> simp [resumeAt, pauseAt, started]

variable {timeline now paused pending}

/-- A frame decides on nothing exactly if no pause begins and the last readout is close. -/
theorem readout_eq_none_iff :
    (timeline.advance now paused pending).1.readout = none ↔
      timeline.pausing now pending = false ∧
        ∃ last, (timeline.moved now pending).lastReadout = some last ∧
          ¬ readoutThreshold <
            ((timeline.advance now paused pending).1.elapsed - last).magnitude := by
  rw [advance_readout, readout?, isDue]
  cases timeline.pausing now pending with
  | true => simp
  | false => cases (timeline.moved now pending).lastReadout <;> simp

/-- What a frame decides on is its own elapsed time, with or without a rate. -/
theorem elapsed_of_readout {readout : Readout}
    (decided : (timeline.advance now paused pending).1.readout = some readout) :
    readout.elapsed = (timeline.advance now paused pending).1.elapsed := by
  rw [advance_readout, readout?] at decided
  split at decided
  · cases decided
    rfl
  · split at decided
    · cases decided
      rfl
    · cases decided

/-- A readout that is decided on is remembered. -/
theorem lastReadout_of_decided {readout : Readout}
    (decided : (timeline.advance now paused pending).1.readout = some readout) :
    (timeline.advance now paused pending).2.1.lastReadout = some readout.elapsed := by
  rw [advance_lastReadout, elapsed_of_readout decided, decided]
  rfl

/-- If none is decided on, the one that was remembered before is still close. -/
theorem lastReadout_of_undecided
    (undecided : (timeline.advance now paused pending).1.readout = none) :
    ∃ last, timeline.lastReadout = some last ∧
      (timeline.advance now paused pending).2.1.lastReadout = some last ∧
      ¬ readoutThreshold <
        ((timeline.advance now paused pending).1.elapsed - last).magnitude := by
  obtain ⟨_, last, remembered, close⟩ := readout_eq_none_iff.mp undecided
  refine ⟨last, ?_, ?_, close⟩
  · rw [moved_lastReadout] at remembered
    split at remembered
    · exact remembered
    · cases remembered
  · rw [advance_lastReadout, undecided]
    exact remembered

/-- After a frame the remembered readout is close to the frame's elapsed time. -/
theorem exists_lastReadout :
    ∃ last, (timeline.advance now paused pending).2.1.lastReadout = some last ∧
      ¬ readoutThreshold <
        ((timeline.advance now paused pending).1.elapsed - last).magnitude := by
  cases decided : (timeline.advance now paused pending).1.readout with
  | some readout =>
      refine ⟨readout.elapsed, lastReadout_of_decided decided, ?_⟩
      rw [elapsed_of_readout decided]
      exact Number.Single.not_lt_magnitude_sub_self _ (by decide)
  | none =>
      obtain ⟨last, _, remembered, close⟩ := lastReadout_of_undecided decided
      exact ⟨last, remembered, close⟩

/-! ## A pause that lasts -/

theorem isSome_moved_pauseStart
    (paired : timeline.origin.isSome = true → timeline.pauseStart.isSome = true) :
    (timeline.moved now pending).pauseStart.isSome = true := by
  rw [moved, applyActions]
  cases started : timeline.origin with
  | none => rfl
  | some origin =>
      have begun := paired (by rw [started]; rfl)
      cases pending.reset with
      | true => rfl
      | false =>
          cases pending.resume <;> cases pending.pause <;> simp [resumeAt, pauseAt, begun]

/-- During a pause the elapsed time is the same at every instant. -/
theorem elapsedTime_paused (begun : timeline.pauseStart.isSome = true) (now other : Instant) :
    timeline.elapsedTime now true = timeline.elapsedTime other true := by
  obtain ⟨start, began⟩ := Option.isSome_iff_exists.mp begun
  rw [elapsedTime, elapsedTime, began]

/--
A frame that sees the same pause as the frame before, and no reset, shows the same elapsed
time and decides on nothing.
-/
theorem readout_of_frozen {later : Instant} {waiting : Pending}
    (paired : timeline.origin.isSome = true → timeline.pauseStart.isSome = true)
    (fits : waiting.Matches true true) (noReset : waiting.reset = false) :
    ((timeline.advance now true pending).2.1.advance later true waiting).1.readout = none := by
  obtain ⟨last, remembered, close⟩ :=
    @exists_lastReadout timeline now true pending
  obtain ⟨origin, started⟩ := Option.isSome_iff_exists.mp (timeline.isSome_moved_origin now pending)
  have begun : (timeline.advance now true pending).2.1.pauseStart.isSome = true :=
    isSome_moved_pauseStart paired
  have shown : (timeline.advance now true pending).1.elapsed =
      Duration.seconds ((timeline.advance now true pending).2.1.elapsedTime now true) := rfl
  rw [← advance_origin timeline now true pending] at started
  generalize (timeline.advance now true pending).2.1 = next at remembered started begun shown ⊢
  have noPause : waiting.pause = false := fits.pause
  have noResume : waiting.resume = false := fits.resume
  have stays : next.moved later waiting = next := by
    rw [moved_of_started _ _ _ started noReset, noPause, noResume]
    rfl
  refine readout_eq_none_iff.mpr ⟨?_, last, by rw [stays]; exact remembered, ?_⟩
  · rw [pausing_eq, noPause, Bool.and_false]
  · rw [advance_elapsed, stays, elapsedTime_paused begun later now, ← shown]
    exact close

/-! ## The rate -/

theorem step?_eq_none_iff :
    timeline.step? now = none ↔ ∀ last, timeline.lastSample = some last → now ≤ last := by
  rw [step?]
  cases timeline.lastSample with
  | none => simp
  | some last => simp [elapsedSince, Nat.sub_eq_zero_iff_le]

/-- The rate is missing if a pause begins or no time has passed since the last frame. -/
theorem rate_eq_none_iff {readout : Readout}
    (decided : (timeline.advance now paused pending).1.readout = some readout) :
    readout.rate = none ↔ timeline.pausing now pending = true ∨
      ∀ last, timeline.lastSample = some last → now ≤ last := by
  rw [advance_readout, readout?] at decided
  rw [← moved_lastSample timeline now pending, ← step?_eq_none_iff]
  cases began : timeline.pausing now pending with
  | true =>
      rw [began] at decided
      cases decided
      simp
  | false =>
      rw [began] at decided
      split at decided
      · contradiction
      · split at decided
        · cases decided
          simp
        · cases decided

end Timeline

end LiveShader.Playback
