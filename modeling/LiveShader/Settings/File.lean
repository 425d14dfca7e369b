import LiveShader.Data.Toml.Reader
import LiveShader.Files.Tree

/-!
# Settings files

A settings file may choose the directory of fragments, the size of the window,
whether time starts in a pause, and where captured images go.  Directories are
taken from the place of the file.  Other keys are refused.
-/

namespace LiveShader.Settings

open LiveShader.Data LiveShader.Files

/-- What a settings file chooses. -/
structure FileSettings where
  shaderDirectory : Option Path
  width : Option Nat
  height : Option Nat
  startPaused : Option Bool
  captureDirectory : Option Path
  deriving Repr, DecidableEq

/-- A file that chooses nothing. -/
def FileSettings.none : FileSettings := ⟨.none, .none, .none, .none, .none⟩

/-- Why a settings file was refused. -/
inductive FileFault where
  | unreadable (path : Path) (cause : FileError)
  | malformed (path : Path)
  /-- A width or height of zero. -/
  | noPoints (path : Path)
  deriving Repr, DecidableEq

namespace FileFault

/-- The wording of a fault. -/
def message : FileFault → String
  | .unreadable path _ => "failed to read config " ++ path
  | .malformed path => "failed to parse config " ++ path
  | .noPoints path => path ++ ": width and height must be greater than zero"

/-- The wording of what is behind a fault. -/
def furtherCauses : FileFault → List String
  | .unreadable _ cause => [cause.message]
  | .malformed _ | .noPoints _ => []

end FileFault

namespace FileSettings

/-- The keys of a settings file. -/
def keys : List String := ["shader_dir", "width", "height", "start_paused", "capture_dir"]

/-- A directory. -/
def pathOf? : Toml.Value → Option Path
  | .string path => some path
  | _ => .none

/-- A number of points. -/
def pointsOf? : Toml.Value → Option Nat
  | .integer value =>
      if 0 ≤ value ∧ value < 4294967296 then some value.toNat else .none
  | _ => .none

/-- A truth value. -/
def flagOf? : Toml.Value → Option Bool
  | .boolean value => some value
  | _ => .none

/-- The value of a key, which may be missing but not of another kind. -/
def entry? {α : Type} (entries : Toml.Entries) (key : String) (read : Toml.Value → Option α) :
    Option (Option α) :=
  match entries.get? key with
  | .none => some .none
  | some value => (read value).map some

/-- The settings in the entries of a document. -/
def ofEntries? (entries : Toml.Entries) : Option FileSettings := do
  if entries.any fun entry => !keys.contains entry.1 then failure
  let shaderDirectory ← entry? entries "shader_dir" pathOf?
  let width ← entry? entries "width" pointsOf?
  let height ← entry? entries "height" pointsOf?
  let startPaused ← entry? entries "start_paused" flagOf?
  let captureDirectory ← entry? entries "capture_dir" pathOf?
  some ⟨shaderDirectory, width, height, startPaused, captureDirectory⟩

/-- The settings with their directories taken from another one. -/
def relativeTo (settings : FileSettings) (base : Path) : FileSettings :=
  { settings with
    shaderDirectory := settings.shaderDirectory.map (Path.join base)
    captureDirectory := settings.captureDirectory.map (Path.join base) }

/-- Reads a settings file. -/
def load (files : Tree) (path : Path) : Except FileFault FileSettings :=
  match files.readText path with
  | .error cause => .error (.unreadable path cause)
  | .ok document =>
      match (Toml.read? document).bind ofEntries? with
      | .none => .error (.malformed path)
      | some settings =>
          if settings.width = some 0 ∨ settings.height = some 0 then .error (.noPoints path)
          else .ok (settings.relativeTo ((Path.parent? path).getD ""))

end FileSettings

/-- What the environment says about where settings are kept. -/
structure Hints where
  /-- The settings file itself. -/
  file : Option String
  /-- The directory that holds the settings file. -/
  directory : Option String
  /-- The directory for settings of all programs; only an absolute one counts. -/
  configHome : Option String
  /-- The directory of the user. -/
  home : Option String
  deriving Repr, DecidableEq

/-- The name of the settings file. -/
def fileName : String := "workshop.toml"

/-- The directory for the settings of all programs. -/
def Hints.base? (hints : Hints) : Option Path :=
  match hints.configHome.filter Path.isAbsolute, hints.home with
  | some base, _ => some base
  | .none, some home => some (Path.join home ".config")
  | .none, .none => .none

/-- The settings file that is read if no other is chosen. -/
def Hints.standardFile? (hints : Hints) : Option Path :=
  match hints.directory with
  | some directory => some (Path.join directory fileName)
  | .none => hints.base?.map fun base => Path.join (Path.join base "workshop") fileName

/--
The settings of the chosen file, which has to exist, or else of the standard file,
which may be missing.
-/
def FileSettings.discover (files : Tree) (hints : Hints) (chosen : Option Path) :
    Except FileFault FileSettings :=
  match chosen, hints.standardFile? with
  | some path, _ => load files path
  | .none, some path => if files.isFile path then load files path else .ok .none
  | .none, .none => .ok .none

end LiveShader.Settings
