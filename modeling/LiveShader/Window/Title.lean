import LiveShader.Number.Text
import LiveShader.Playback.Timeline

/-!
# The title of the window

The title begins with a fixed text.  After it stands the last error, or else the
last readout: the elapsed time and the frame rate, or a mark for a pause when there
is no rate.
-/

namespace LiveShader.Window

/-- The mark of a pause. -/
def pausedMark : String := " (paused)"

/-- A frame rate with one place. -/
def rateText (rate : Number.Single) : String :=
  " FPS:" ++ Number.fixedPlaces 1 (Number.decodeSingle rate)

/-- A readout with two places for the elapsed time. -/
def readoutText (readout : Playback.Readout) : String :=
  " | t=" ++ Number.fixedPlaces 2 (Number.decodeSingle readout.elapsed) ++
    match readout.rate with
    | some rate => rateText rate
    | none => pausedMark

/-- The title for a readout and an error. -/
def title (base : String) (readout : Option Playback.Readout) (error : Option String) : String :=
  match error, readout with
  | some message, _ => base ++ " | " ++ message
  | none, some shown => base ++ readoutText shown
  | none, none => base

end LiveShader.Window
