import LiveShader.Device.Basic
import LiveShader.Settings.File

/-!
# The settings in effect

The command line comes before the settings file, and that before what is built in.
-/

namespace LiveShader.Settings

open LiveShader.Files

/-- What the command line chooses. -/
structure RunOptions where
  /-- The directory of fragments. -/
  directory : Option Path
  /-- The first fragment. -/
  fragment : Option String
  size : Option Size
  startPaused : Option Bool
  captureDirectory : Option Path
  /-- The settings file. -/
  file : Option Path
  deriving Repr, DecidableEq

/-- The settings in effect. -/
structure Effective where
  shaderDirectory : Path
  fragment : Option String
  size : Size
  startPaused : Bool
  captureDirectory : Path
  deriving Repr, DecidableEq

/-- The size of the window that is built in. -/
def builtInSize : Size := ⟨1280, 720⟩

/-- The size that a settings file chooses, each direction on its own. -/
def FileSettings.size (settings : FileSettings) : Size :=
  ⟨settings.width.getD builtInSize.width, settings.height.getD builtInSize.height⟩

/-- Combines the choices of the command line and of the settings file. -/
def resolve (options : RunOptions) (settings : FileSettings) : Effective where
  shaderDirectory := (options.directory.or settings.shaderDirectory).getD "."
  fragment := options.fragment
  size := options.size.getD settings.size
  startPaused := (options.startPaused.or settings.startPaused).getD false
  captureDirectory := (options.captureDirectory.or settings.captureDirectory).getD "."

end LiveShader.Settings
