import LiveShader.Fragment.Library
import LiveShader.Settings.File
import LiveShader.Window.Runtime

/-!
# Failures of the program

A failure is told as a chain of causes, the last one at the bottom.
-/

namespace LiveShader.Application

/-- Why the program failed. -/
inductive Failure where
  | settings (fault : Settings.FileFault)
  /-- The directory of fragments cannot be opened. -/
  | directory (path : Files.Path) (error : Fragment.LibraryError)
  | library (error : Fragment.LibraryError)
  | source (fault : Fragment.ReadFault)
  /-- A path that ends without a name. -/
  | noFileName
  | window (error : Window.OpenError)
  | windowEnded
  /-- The window ended with a fault. -/
  | windowFault (fault : Window.Fault)
  deriving DecidableEq

namespace Failure

/-- The wordings of a failure and its causes. -/
def causes : Failure → List String
  | .settings fault => fault.message :: fault.furtherCauses
  | .directory path error =>
      ("failed to open shader directory " ++ path) :: error.message :: error.furtherCauses
  | .library error => error.message :: error.furtherCauses
  | .source fault => [fault.message, fault.cause.message]
  | .noFileName => ["fragment path has no file name"]
  | .window error => ["failed to start the preview window", error.message]
  | .windowEnded => [Window.Runtime.endedMessage]
  | .windowFault fault => [fault.message]

/-- A text whose lines after the first begin with the given blanks. -/
def indented (blanks text : String) : String :=
  Text.joinWith ("\n" ++ blanks) ((Text.pieces (· == '\n') text.toList).map String.ofList)

/-- A number at the end of five columns. -/
def numbered (number : Nat) : String :=
  let digits := toString number
  String.ofList (List.replicate (5 - digits.length) ' ') ++ digits ++ ": "

/-- The lines for the causes behind a failure; several are numbered. -/
def causeLines : List String → List String
  | [] => []
  | [cause] => ["    " ++ indented "    " cause]
  | causes =>
      causes.zipIdx.map fun (cause, number) => numbered number ++ indented "       " cause

/-- What is printed for a failure. -/
def report (failure : Failure) : String :=
  match failure.causes with
  | [] => "Error: \n"
  | [message] => "Error: " ++ message ++ "\n"
  | message :: causes =>
      "Error: " ++ message ++ "\n\nCaused by:\n" ++
        Text.joinWith "\n" (causeLines causes) ++ "\n"

end Failure

end LiveShader.Application
