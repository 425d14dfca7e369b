import LiveShader.Number.Binary

/-!
# Instants and durations

Instants and durations are whole nanoseconds.  The time from a later instant to an
earlier one counts as zero.
-/

namespace LiveShader.Playback

/-- A point in time, in nanoseconds. -/
abbrev Instant := Nat

/-- A length of time, in nanoseconds. -/
abbrev Duration := Nat

/-- The nanoseconds of a second. -/
def nanosPerSecond : Nat := 1000000000

/-- The time from an earlier instant to a later one, otherwise zero. -/
def elapsedSince (later earlier : Instant) : Duration := later - earlier

/--
A duration in seconds: the whole seconds and the rest are rounded one by one, and
then their sum.
-/
def Duration.seconds (duration : Duration) : Number.Single :=
  Number.singleOfInt (duration / nanosPerSecond : Nat) +
    Number.singleOfInt (duration % nanosPerSecond : Nat) / Number.singleOfInt nanosPerSecond

end LiveShader.Playback
