import LiveShader.Calendar.Basic
import LiveShader.Number.Text

/-!
# The names of captured images

A captured image is named for the time of its capture, from the year down to the
millisecond, so that names sort like times.
-/

namespace LiveShader.Window

open LiveShader.Calendar

/-- A year in four digits; years that need more, or lie before zero, have a sign. -/
def yearText (year : Int) : String :=
  if 0 ≤ year ∧ year ≤ 9999 then Number.padded 4 year.toNat
  else (if year < 0 then "-" else "+") ++ Number.padded 4 year.natAbs

/-- The second as it is shown; a leap second is the next one, or the sixtieth behind second 59. -/
def shownSecond (stamp : Timestamp) : Nat := stamp.second + stamp.nano / 1000000000

/-- The millisecond within the second. -/
def millisecond (stamp : Timestamp) : Nat := stamp.nano % 1000000000 / 1000000

/-- The name of an image captured at a time. -/
def captureName (stamp : Timestamp) : String :=
  "shader-" ++ yearText stamp.year ++ Number.padded 2 stamp.month ++
    Number.padded 2 stamp.day ++ "-" ++ Number.padded 2 stamp.hour ++
    Number.padded 2 stamp.minute ++ Number.padded 2 (shownSecond stamp) ++ "-" ++
    Number.padded 3 (millisecond stamp) ++ ".png"

end LiveShader.Window
