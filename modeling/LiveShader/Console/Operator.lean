import LiveShader.Console.Command
import LiveShader.Fragment.Change
import LiveShader.Fragment.Library
import LiveShader.Manifest.Declaration
import LiveShader.Window.Message

/-!
# The operator of the window

The operator keeps one fragment of a library on the screen.  It reads the fragment
when it is selected and again whenever a file changes on which it depends, hands it
to the window, and prints what the window reports.  A fragment that cannot be read
leaves the running program as it is.
-/

namespace LiveShader.Console

open LiveShader.Fragment

/-- Something printed. -/
inductive Printed where
  | output (text : String)
  | complaint (text : String)
  deriving Repr, DecidableEq

/-- What the operator finds around it. -/
structure Place where
  files : Files.Tree
  /-- Whether the window still takes commands. -/
  windowIsOpen : Bool

/-- The fragment that is shown and the files it depends on. -/
structure Operator where
  library : Library
  /-- The fragments when they were last listed. -/
  fragments : List String
  selected : Option String
  /-- The files whose change matters to the selected fragment, in order. -/
  tracked : List String
  /-- The fragment that was handed to the window last. -/
  current : Option Loaded

/-- Whether the operator goes on after a turn. -/
inductive Verdict where
  | goOn
  | stop
  /-- A command was to be sent, but the window had ended. -/
  | windowEnded
  deriving Repr, DecidableEq

/-- What a turn of the operator leaves behind. -/
structure Turn where
  operator : Operator
  printed : List Printed
  /-- The command handed to the window. -/
  sent : Option Window.Command
  verdict : Verdict

namespace Turn

/-- A turn that does nothing more. -/
def quiet (operator : Operator) : Turn := ⟨operator, [], none, .goOn⟩

/-- A turn that prints lines. -/
def printing (operator : Operator) (printed : List Printed) : Turn :=
  ⟨operator, printed, none, .goOn⟩

/-- A turn that prints one complaint. -/
def complaining (operator : Operator) (text : String) : Turn :=
  printing operator [.complaint text]

end Turn

/-- Hands a command to the window; `after` is the operator if the window takes it. -/
def hand (place : Place) (operator after : Operator) (command : Window.Command) : Turn :=
  if place.windowIsOpen then ⟨after, [], some command, .goOn⟩
  else ⟨operator, [], none, .windowEnded⟩

namespace Operator

/-- Nothing selected. -/
def start (library : Library) : Operator := ⟨library, [], none, [], none⟩

/-- Gives up the selection. -/
def deselect (operator : Operator) : Operator :=
  { operator with selected := none, tracked := [] }

/-- Lists the fragments again; one that is gone is no longer selected. -/
def refresh (operator : Operator) (files : Files.Tree) : Operator :=
  let operator :=
    match operator.library.list files with
    | .ok fragments => { operator with fragments := fragments }
    | .error _ => operator
  match operator.selected with
  | some name => if operator.fragments.contains name then operator else operator.deselect
  | none => operator

/-- Looks up the files on which a fragment depends; if that fails the old ones stay. -/
def track (operator : Operator) (files : Files.Tree) (name : String) : Operator :=
  match operator.library.references files name with
  | .ok tracked => { operator with tracked := tracked }
  | .error _ => operator

/-- Reads the selected fragment again and hands it to the window. -/
def reload (operator : Operator) (place : Place) : Turn :=
  match operator.selected with
  | none => .quiet operator
  | some name =>
      let operator := operator.track place.files name
      match operator.library.load place.files .full name with
      | .error error => .complaining operator (name ++ ": " ++ error.message)
      | .ok loaded =>
          match Manifest.Declaration.toSpecs loaded.controls with
          | .error error =>
              .complaining operator (name ++ ": " ++ Text.joinWith ": " error.causes)
          | .ok controls =>
              hand place operator { operator with current := some loaded }
                (.load loaded.content controls)

/-- Selects a fragment and reads it. -/
def select (operator : Operator) (place : Place) (name : String) : Turn :=
  match operator.library.resolve place.files name with
  | .error error => .complaining operator error.message
  | .ok path => { operator with selected := some (Library.lastName path) }.reload place

/-- Selects the first fragment if none is selected. -/
def selectFirst (operator : Operator) (place : Place) : Turn :=
  match operator.selected, operator.fragments with
  | none, first :: _ => operator.select place first
  | _, _ => .quiet operator

/-- Follows a change in the library. -/
def onEvent (operator : Operator) (place : Place) : Event → Turn
  | .listChanged => (operator.refresh place.files).selectFirst place
  | .changed file =>
      if operator.tracked.contains file then operator.reload place else .quiet operator

/-- The table of the files of the current fragment, if it has more than one. -/
def tableLines (operator : Operator) : List Printed :=
  match operator.current with
  | some loaded => if 1 < loaded.files.length then [.complaint loaded.filesTable] else []
  | none => []

/-- Prints what the window reports. -/
def onSignal (operator : Operator) : Window.Signal → Turn
  | .loaded => .quiet operator
  | .buildFailed report => .printing operator (.complaint report :: operator.tableLines)
  | .captured path => .printing operator [.output ("saved " ++ path)]
  | .captureFailed cause => .complaining operator ("capture failed: " ++ cause)
  | .controlRejected cause => .complaining operator cause
  | .closed => ⟨operator, [], none, .stop⟩

/-- The line of a list for a fragment. -/
def listLine (operator : Operator) (name : String) : Printed :=
  .output ((if operator.selected = some name then "* " else "  ") ++ name)

/-- The list of all fragments. -/
def listLines (operator : Operator) : List Printed :=
  if operator.fragments.isEmpty then [.output ("no fragments in " ++ operator.library.root)]
  else operator.fragments.map operator.listLine

/-- Carries out a command. -/
def onCommand (operator : Operator) (place : Place) : Command → Turn
  | .pause => hand place operator operator .pause
  | .resume => hand place operator operator .resume
  | .toggle => hand place operator operator .togglePaused
  | .reset => hand place operator operator .resetTime
  | .capture => hand place operator operator .capture
  | .set name value => hand place operator operator (.setControl name value)
  | .load name => operator.select place name
  | .list => .printing operator operator.listLines
  | .help => .printing operator [.output helpText]
  | .quit => ⟨operator, [], none, .stop⟩

/-- Carries out a line of the console. -/
def onLine (operator : Operator) (place : Place) (line : String) : Turn :=
  match Command.ofLine line with
  | .error error => .complaining operator error.message
  | .ok none => .quiet operator
  | .ok (some command) => operator.onCommand place command

end Operator

end LiveShader.Console
