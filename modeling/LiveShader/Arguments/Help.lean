import LiveShader.Arguments.Grammar
import LiveShader.Text.ControlSequence

/-!
# Help texts

A help text says what a command does and how it is called, and lists its commands,
operands and flags in columns.  It is laid out with headings and names in bold, and
handed on without any control sequence, so a value of the environment cannot bring
one in.
-/

namespace LiveShader.Arguments

/-- As many blanks. -/
def blanks (count : Nat) : String := String.ofList (List.replicate count ' ')

/-- The blanks after a text that fills its column up. -/
def gap (width : Nat) (text : String) : String := blanks (width - text.length)

/-- A text in bold. -/
def bold (text : String) : String := "\x1b[1m" ++ text ++ "\x1b[0m"

/-- A text whose lines after the first are moved to the right. -/
def hanging (width : Nat) (text : String) : String :=
  Text.joinWith ("\n" ++ blanks width) ((Text.pieces (· == '\n') text.toList).map String.ofList)

/-- The length of the longest text. -/
def longest (texts : List String) : Nat := (texts.map String.length).foldl max 0

/-- An operand as it is shown. -/
def Operand.shown (operand : Operand) : String :=
  (if operand.isRequired then "<" ++ operand.label ++ ">" else "[" ++ operand.label ++ "]") ++
    if operand.isRepeated then "..." else ""

/-- The name of a flag as it is shown. -/
def Flag.shownName (flag : Flag) : String := "--" ++ flag.name

/-- The value of a flag as it is shown. -/
def Flag.shownValue (flag : Flag) : String :=
  match flag.role with
  | .value _ label => " <" ++ label ++ ">"
  | _ => ""

/-- A flag and its value as they are shown. -/
def Flag.shown (flag : Flag) : String := flag.shownName ++ flag.shownValue

/-- The letter of a flag as it is shown, or as many blanks. -/
def Flag.shownLetter (flag : Flag) : String :=
  match flag.letter with
  | some letter => bold ("-" ++ String.singleton letter) ++ ", "
  | none => "    "

/-- What a flag is for, with the variable that stands in for it. -/
def Flag.explained (flag : Flag) (lookup : String → Option String) : String :=
  match flag.variableName with
  | none => flag.about
  | some name => flag.about ++ " [env: " ++ name ++ "=" ++ (lookup name).getD "" ++ "]"

/-- Whether a flag is worth a mention in the line that shows the call. -/
def Flag.isOption (flag : Flag) : Bool :=
  match flag.role with
  | .value .. | .switch .. => true
  | .help | .version => false

/-- A heading with lines below it, if there are any. -/
def block? (heading : String) (lines : List String) : Option String :=
  if lines.isEmpty then none
  else some (bold (heading ++ ":") ++ "\n" ++ Text.joinWith "\n" lines)

/-- The lines for commands. -/
def commandLines (forms : List Form) : List String :=
  let width := longest (forms.map Form.name) + 2
  forms.map fun form => "  " ++ bold form.name ++ gap width form.name ++ form.about

/-- The lines for operands. -/
def operandLines (operands : List Operand) : List String :=
  let width := longest (operands.map Operand.shown) + 2
  operands.map fun operand =>
    "  " ++ operand.shown ++ gap width operand.shown ++ operand.about

/-- The lines for flags. -/
def flagLines (lookup : String → Option String) (flags : List Flag) : List String :=
  let width := longest (flags.map Flag.shown) + 2
  flags.map fun flag =>
    "  " ++ flag.shownLetter ++ bold flag.shownName ++ flag.shownValue ++
      gap width flag.shown ++ hanging (width + 6) (flag.explained lookup)

/-- The line that shows how a command is called. -/
def usageLine (path : String) (form : Form) (commands : List Form) : String :=
  bold "Usage:" ++ " " ++ bold path ++
    (if form.flags.any Flag.isOption then " [OPTIONS]" else "") ++
    (match form.operand with
      | some operand => " " ++ operand.shown
      | none => "") ++
    if commands.isEmpty then "" else " [COMMAND]"

/-- The help text of a command that is called by a path. -/
def helpText (lookup : String → Option String) (path : String) (form : Form)
    (commands : List Form) : String :=
  let blocks :=
    [block? "Commands" (commandLines commands),
      block? "Arguments" (operandLines form.operand.toList),
      block? "Options" (flagLines lookup form.flags)]
  Text.withoutControls <|
    Text.joinWith "\n\n"
      (form.about :: usageLine path form commands :: blocks.filterMap id) ++ "\n"

/-- The help text of the program. -/
def Grammar.helpText (grammar : Grammar) (lookup : String → Option String) : String :=
  Arguments.helpText lookup grammar.main.name grammar.main grammar.allCommands

/-- The help text of one command. -/
def Grammar.commandHelp (grammar : Grammar) (lookup : String → Option String)
    (form : Form) : String :=
  Arguments.helpText lookup (grammar.main.name ++ " " ++ form.name) form []

/-- The text that shows the version. -/
def Grammar.versionText (grammar : Grammar) : String :=
  grammar.main.name ++ " " ++ grammar.version ++ "\n"

end LiveShader.Arguments
