import LiveShader.Application.Failure
import LiveShader.Application.Preview
import LiveShader.Arguments.Invocation

/-!
# The program

The program is a function of its arguments, the hints of its environment, the
files and the lines of its input.  It answers with an exit code and with what it
prints on either stream.
-/

namespace LiveShader.Application

open LiveShader.Arguments LiveShader.Console LiveShader.Fragment

/-- What the program is given. -/
structure Environment where
  arguments : List String
  hints : Settings.Hints
  files : Files.Tree
  /-- The text of the standard input. -/
  input : String

/-- What the program answers. -/
structure Answer where
  code : Nat
  output : String
  errors : String
  deriving Repr, DecidableEq

namespace Answer

/-- Success with some output. -/
def success (output : String) : Answer := ⟨0, output, ""⟩

/-- A failure. -/
def failed (failure : Failure) : Answer := ⟨1, "", failure.report⟩

/-- An answer to a result. -/
def ofResult : Except Failure String → Answer
  | .ok output => success output
  | .error failure => failed failure

/-- A command line that was refused, or that asked for a text. -/
def ofStop : Stop → Answer
  | .help text | .version text => success text
  | .usage error => ⟨2, "", "error: " ++ error.message ++ "\n"⟩

/-- The text of one stream, each entry ended by a line break. -/
def stream (texts : List String) : String := String.join (texts.map fun text => text ++ "\n")

/-- What was printed on the standard output. -/
def outputOf (printed : List Printed) : String :=
  stream (printed.filterMap fun entry =>
    match entry with
    | .output text => some text
    | .complaint _ => none)

/-- What was printed on the error stream. -/
def complaintsOf (printed : List Printed) : String :=
  stream (printed.filterMap fun entry =>
    match entry with
    | .complaint text => some text
    | .output _ => none)

/-- An answer with what was printed before it. -/
def after (answer : Answer) (printed : List Printed) : Answer :=
  { answer with
    output := outputOf printed ++ answer.output
    errors := complaintsOf printed ++ answer.errors }

end Answer

/-- The value of a variable that a flag may name. -/
def Environment.lookup (environment : Environment) (name : String) : Option String :=
  if name == settingsVariable then environment.hints.file else none

/-- The settings in effect. -/
def settingsOf (environment : Environment) (options : Settings.RunOptions) :
    Except Failure Settings.Effective :=
  match Settings.FileSettings.discover environment.files environment.hints options.file with
  | .ok settings => .ok (Settings.resolve options settings)
  | .error fault => .error (.settings fault)

/-- Opens the directory of fragments. -/
def openLibrary (files : Files.Tree) (path : Files.Path) : Except Failure Library :=
  (Library.openAt files path).mapError (.directory path)

/-- Lists the fragments of a directory. -/
def listFragments (environment : Environment) (options : Settings.RunOptions)
    (directory : Option Files.Path) : Except Failure String := do
  let path ←
    match directory with
    | some path => .ok path
    | none => (settingsOf environment options).map Settings.Effective.shaderDirectory
  let library ← openLibrary environment.files path
  let names ← (library.list environment.files).mapError .library
  .ok (Answer.stream names)

/-- The directory that holds a fragment. -/
def directoryOf (fragment : Files.Path) : Files.Path :=
  match Files.Path.parent? fragment with
  | some parent => if parent.isEmpty then "." else parent
  | none => "."

/-- Prints a fragment as it is handed to the window. -/
def printJson (files : Files.Tree) (fragment : Files.Path) : Except Failure String :=
  match Files.Path.fileName? fragment with
  | none => .error .noFileName
  | some name => do
      let library ← (Library.openAt files (directoryOf fragment)).mapError .library
      let loaded ← (library.load files .full name).mapError .library
      .ok (loaded.json.pretty 0 ++ "\n")

/-- Prints the text of a fragment with its includes. -/
def printText (files : Files.Tree) (fragment : Files.Path) (header : Bool) :
    Except Failure String :=
  match combineIn files ⟨header, false⟩ fragment with
  | .error fault => .error (.source fault)
  | .ok combined => .ok (String.ofList (Text.trimEnd combined.content.toList) ++ "\n")

/-- What the window starts with. -/
def windowConfig (settings : Settings.Effective) : Window.Config :=
  { Window.Config.default with
    size := settings.size
    startPaused := settings.startPaused
    captureDirectory := settings.captureDirectory }

/-- What is left to print when the window is closed. -/
def closing (preview : Preview) : Preview :=
  let (signals, window) := preview.window.takeSignals
  signals.foldl
    (fun preview signal => (preview.perform (preview.operator.onSignal signal)).1)
    { preview with window := window }

/-- The answer when a preview is over. -/
def conclude : Preview × Verdict → Answer
  | (preview, .windowEnded) => (Answer.failed .windowEnded).after preview.printed
  | (preview, _) =>
      let preview := closing preview
      match preview.window.fault with
      | some fault => (Answer.failed (.windowFault fault)).after preview.printed
      | none => (Answer.success "").after preview.printed

/-- Opens the window and shows fragments in it. -/
def preview (environment : Environment) (options : Settings.RunOptions) :
    Except Failure Answer := do
  let settings ← settingsOf environment options
  let library ← openLibrary environment.files settings.shaderDirectory
  let window ← (Window.Runtime.launch .plain (windowConfig settings)).mapError .window
  let lines := (Text.lines environment.input.toList).map String.ofList
  .ok <| conclude <|
    Preview.run ⟨.start library, window, []⟩ environment.files settings.fragment lines

/-- Does what the command line asks for. -/
def perform (environment : Environment) (invocation : Invocation) : Answer :=
  match invocation.task with
  | .list directory => .ofResult (listFragments environment invocation.options directory)
  | .print fragment _ true => .ofResult (printJson environment.files fragment)
  | .print fragment header false => .ofResult (printText environment.files fragment header)
  | .run =>
      match preview environment invocation.options with
      | .ok answer => answer
      | .error failure => .failed failure

/-- Runs the program. -/
def run (environment : Environment) : Answer :=
  match Invocation.read environment.lookup environment.arguments with
  | .error stop => .ofStop stop
  | .ok invocation => perform environment invocation

end LiveShader.Application
