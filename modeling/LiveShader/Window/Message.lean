import LiveShader.Control.Spec
import LiveShader.Device.Basic
import LiveShader.Files.Path

/-!
# What a window is told and what it tells

Commands go to the window, signals come from it, and events are what the user does
to it.  Each stream is handled in order.
-/

namespace LiveShader.Window

/-- A request to the window. -/
inductive Command where
  /-- Replaces the running program. -/
  | load (source : String) (controls : List Control.Spec)
  | pause
  | resume
  | togglePaused
  | resetTime
  | capture
  /-- Sets a control from text. -/
  | setControl (name raw : String)
  | shutdown

/-- What the window reports. -/
inductive Signal where
  | loaded
  /-- The full report of a build that failed. -/
  | buildFailed (report : String)
  | captured (path : Files.Path)
  | captureFailed (cause : String)
  | controlRejected (cause : String)
  | closed
  deriving Repr, DecidableEq

/-- A key of the keyboard. -/
inductive Key where
  | space
  | escape
  | f12
  /-- A key that writes text. -/
  | character (text : String)
  | other
  deriving Repr, DecidableEq

/-- What a key did. -/
structure KeyStroke where
  key : Key
  /-- Whether the key went down and not up. -/
  isDown : Bool
  /-- Whether the key was held. -/
  isRepeated : Bool
  deriving Repr, DecidableEq

/-- What happens to the window. -/
inductive Event where
  | keyboard (stroke : KeyStroke)
  /-- The pointer moved to a point given from the top left. -/
  | pointerMoved (x y : Number.Double)
  | resized (size : Size)
  | redrawRequested
  | closeRequested
  | destroyed
  | other

end LiveShader.Window
