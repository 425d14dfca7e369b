import LiveShader.Device.Basic
import LiveShader.Number.Reading
import LiveShader.Text.Blank
import LiveShader.Text.Cut

/-!
# Sizes in words

The size of a window is written as width, a cross and height.  Blanks around the
numbers do not matter.
-/

namespace LiveShader.Settings

/-- Why a text is no size. -/
inductive SizeError where
  | noCross
  | badWidth
  | badHeight
  | noPoints
  deriving Repr, DecidableEq

/-- The wording of an error. -/
def SizeError.message : SizeError → String
  | .noCross => "expected WxH format, e.g. 1280x720"
  | .badWidth => "invalid width in size specification"
  | .badHeight => "invalid height in size specification"
  | .noPoints => "surface dimensions must be greater than zero"

/-- Whether a character separates width and height. -/
def isCross (c : Char) : Bool := c == 'x' || c == 'X' || c == '×'

/-- The number of points in one direction. -/
def extent? (text : List Char) (fault : SizeError) : Except SizeError Nat :=
  match Number.readUInt32? (Text.trim text) with
  | some number => .ok number
  | none => .error fault

/-- The size that a text gives. -/
def readSize (text : String) : Except SizeError Size :=
  match Text.cutOn? isCross (Text.trim text.toList) with
  | none => .error .noCross
  | some (first, second) =>
      match extent? first .badWidth, extent? second .badHeight with
      | .error fault, _ => .error fault
      | .ok _, .error fault => .error fault
      | .ok width, .ok height =>
          if width = 0 ∨ height = 0 then .error .noPoints else .ok ⟨width, height⟩

end LiveShader.Settings
