import LiveShader.Text.Blank
import LiveShader.Text.Cut

/-!
# Console commands

A line of the console is a word and what it applies to, separated by blanks.  The
case of the word does not matter.
-/

namespace LiveShader.Console

/-- What a line of the console asks for. -/
inductive Command where
  | pause
  | resume
  | toggle
  | reset
  | capture
  | set (name value : String)
  | load (name : String)
  | list
  | help
  | quit
  deriving Repr, DecidableEq

/-- Why a line is no command. -/
inductive CommandError where
  /-- No control or no value is named. -/
  | incompleteSet
  /-- Not exactly one fragment is named. -/
  | incompleteLoad
  | unknown (word : String)
  deriving Repr, DecidableEq

/-- The wording of an error. -/
def CommandError.message : CommandError → String
  | .incompleteSet => "usage: set NAME VALUE"
  | .incompleteLoad => "usage: load NAME"
  | .unknown word => "unknown command '" ++ word ++ "' (try 'help')"

/-- The text that explains all commands. -/
def helpText : String :=
  "commands:\n" ++
  "  pause | resume | toggle     control the timeline\n" ++
  "  reset                       restart time at zero\n" ++
  "  capture                     save the next frame as PNG\n" ++
  "  set NAME VALUE              change a live control\n" ++
  "  load NAME                   switch to another fragment\n" ++
  "  list                        show the fragments in the directory\n" ++
  "  help                        show this text\n" ++
  "  quit                        close the window and exit"

namespace Command

/-- The first word of a command. -/
def word : Command → String
  | .pause => "pause"
  | .resume => "resume"
  | .toggle => "toggle"
  | .reset => "reset"
  | .capture => "capture"
  | .set .. => "set"
  | .load .. => "load"
  | .list => "list"
  | .help => "help"
  | .quit => "quit"

/-- The command of a word in small letters and the words after it. -/
def ofWords (word : String) (rest : List String) : Except CommandError Command :=
  match word, rest with
  | "pause", [] => .ok .pause
  | "resume", [] | "play", [] => .ok .resume
  | "toggle", [] => .ok .toggle
  | "reset", [] => .ok .reset
  | "capture", [] | "shot", [] => .ok .capture
  | "set", name :: first :: more => .ok (.set name (Text.joinWith " " (first :: more)))
  | "set", _ => .error .incompleteSet
  | "load", [name] => .ok (.load name)
  | "load", _ => .error .incompleteLoad
  | "list", [] | "ls", [] => .ok .list
  | "help", _ | "?", _ => .ok .help
  | "quit", [] | "exit", [] | "q", [] => .ok .quit
  | _, _ => .error (.unknown word)

/-- The command of a line; a blank line is none. -/
def ofLine (line : String) : Except CommandError (Option Command) :=
  match (Text.words line.toList).map String.ofList with
  | [] => .ok none
  | word :: rest => (ofWords word.toLower rest).map some

end Command

end LiveShader.Console
