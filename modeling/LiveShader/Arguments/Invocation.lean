import LiveShader.Arguments.Reader
import LiveShader.Settings.Effective

/-!
# The command line of the workshop

Without a command the workshop opens its window.  One command lists the fragments
of a directory, another prints a fragment with its includes.
-/

namespace LiveShader.Arguments

/-- The variable that names the settings file. -/
def settingsVariable : String := "WORKSHOP_CONFIG"

/-- A flag that takes a value. -/
def valueFlag (name : String) (kind : ValueKind) (label about : String) : Flag :=
  ⟨name, none, .value kind label, about, none⟩

/-- A flag that does not. -/
def switchFlag (name : String) (opposite : Option String) (about : String) : Flag :=
  ⟨name, none, .switch opposite, about, none⟩

/-- What the program itself takes. -/
def mainForm : Form :=
  { name := "workshop"
    about := "Live GLSL fragment workshop"
    flags :=
      [valueFlag "frag" .text "NAME"
          "Fragment to open first, with or without the `.frag` extension",
        valueFlag "size" .size "WIDTHxHEIGHT" "Initial window size (e.g. `1280x720`)",
        switchFlag "paused" (some "no-paused") "Start with the timeline paused",
        switchFlag "no-paused" (some "paused")
          "Start playing even when the configuration file sets `start_paused`",
        valueFlag "capture-dir" .path "PATH" "Directory captured frames are written to",
        { valueFlag "config" .path "FILE"
            ("Configuration file; defaults to " ++
              "`workshop.toml` in the user config directory") with
          variableName := some settingsVariable },
        helpFlag,
        versionFlag]
    operand :=
      some
        { label := "DIR"
          kind := .path
          isRequired := false
          isRepeated := false
          about :=
            "Directory holding the `.frag` sources (defaults to the configured " ++
              "`shader_dir`, then the current directory)" } }

/-- What the command that lists fragments takes. -/
def listForm : Form :=
  { name := "list"
    about := "List the fragments of a directory"
    flags := [helpFlag]
    operand := some ⟨"DIR", .path, false, false, ""⟩ }

/-- What the command that prints a fragment takes. -/
def printForm : Form :=
  { name := "print"
    about := "Print the combined source of a fragment with its includes inlined"
    flags :=
      [switchFlag "header" none "Prepend the GLSL ES header",
        switchFlag "json" none
          ("Emit the `\x7bcontent, refs, controls\x7d` payload the window loads (header " ++
            "and `#line` directives included)"),
        helpFlag]
    operand := some ⟨"FRAG", .fragmentPath, true, false, "Path to the fragment source"⟩ }

/-- The command line of the workshop. -/
def grammar : Grammar := ⟨mainForm, "0.1.0", [listForm, printForm]⟩

/-- What the workshop is asked to do. -/
inductive Task where
  /-- Opens the window. -/
  | run
  /-- Lists the fragments of a directory, or of the one in effect. -/
  | list (directory : Option Files.Path)
  | print (fragment : Files.Path) (header json : Bool)
  deriving Repr, DecidableEq

/-- A command line of the workshop. -/
structure Invocation where
  options : Settings.RunOptions
  task : Task
  deriving Repr, DecidableEq

/-- Whether time starts in a pause; the two switches take each other back. -/
def startPaused? (found : Found) : Option Bool :=
  if found.has "paused" then some true
  else if found.has "no-paused" then some false
  else none

/-- What the values of the program choose. -/
def optionsOf (found : Found) : Settings.RunOptions :=
  { directory := found.get? "DIR"
    fragment := found.get? "frag"
    size := (found.get? "size").bind fun text => (Settings.readSize text).toOption
    startPaused := startPaused? found
    captureDirectory := found.get? "capture-dir"
    file := found.get? "config" }

/-- What a command asks for. -/
def taskOf : Option (String × Found) → Task
  | none => .run
  | some (name, found) =>
      if name == listForm.name then .list (found.get? "DIR")
      else .print ((found.get? "FRAG").getD "") (found.has "header") (found.has "json")

/-- Reads a command line of the workshop. -/
def Invocation.read (lookup : String → Option String) (arguments : List String) :
    Except Stop Invocation :=
  (grammar.read lookup arguments).map fun reading =>
    ⟨optionsOf reading.found, taskOf reading.command⟩

end LiveShader.Arguments
