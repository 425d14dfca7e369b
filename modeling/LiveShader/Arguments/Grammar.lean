import LiveShader.Settings.SurfaceSize
import LiveShader.Text.Cut

/-!
# The grammar of a command line

A command line holds flags, operands and at most one command, which has flags and
operands of its own.  A flag is a switch or takes a value; every value is checked
by its kind.
-/

namespace LiveShader.Arguments

/-- Why a command line was refused. -/
inductive UsageError where
  /-- A flag was given twice. -/
  | conflict
  /-- A value is missing or empty. -/
  | noValue
  /-- A value is not of its kind. -/
  | wrongValue
  | unknownArgument
  | missingOperand
  /-- A switch was given a value. -/
  | valueForSwitch
  | unknownCommand
  deriving Repr, DecidableEq

/-- The wording of an error. -/
def UsageError.message : UsageError → String
  | .conflict => "an argument cannot be used multiple times"
  | .noValue => "a value is required but none was supplied"
  | .wrongValue => "invalid value"
  | .unknownArgument => "unexpected argument found"
  | .missingOperand => "a required argument was not provided"
  | .valueForSwitch => "unexpected value for a flag that takes none"
  | .unknownCommand => "unrecognized subcommand"

/-- What a value may be. -/
inductive ValueKind where
  | text
  /-- A path; it is not empty. -/
  | path
  /-- A size of a window. -/
  | size
  /-- A path that ends like the name of a fragment. -/
  | fragmentPath
  deriving Repr, DecidableEq

/-- What is wrong with a value of a kind, if anything is. -/
def ValueKind.fault? (kind : ValueKind) (value : String) : Option UsageError :=
  match kind with
  | .text => none
  | .path => if value.isEmpty then some .noValue else none
  | .size =>
      match Settings.readSize value with
      | .ok _ => none
      | .error _ => some .wrongValue
  | .fragmentPath =>
      if Text.endsWith value.toList ".frag".toList then none else some .wrongValue

/-- What a flag is for. -/
inductive Role where
  | value (kind : ValueKind) (label : String)
  /-- A switch; it takes back the one that is named. -/
  | switch (opposite : Option String)
  | help
  | version
  deriving Repr, DecidableEq

/-- A flag. -/
structure Flag where
  name : String
  letter : Option Char
  role : Role
  about : String
  /-- The variable of the environment that stands in for the flag. -/
  variableName : Option String
  deriving Repr, DecidableEq

/-- A value that is told by its place. -/
structure Operand where
  label : String
  kind : ValueKind
  isRequired : Bool
  /-- Whether more than one may be given. -/
  isRepeated : Bool
  about : String
  deriving Repr, DecidableEq

/-- What one command takes. -/
structure Form where
  name : String
  about : String
  flags : List Flag
  operand : Option Operand
  deriving Repr, DecidableEq

/-- A command line: what the program itself takes, and its commands. -/
structure Grammar where
  main : Form
  version : String
  commands : List Form
  deriving Repr, DecidableEq

/-- The flag that shows the help text. -/
def helpFlag : Flag := ⟨"help", some 'h', .help, "Print help", none⟩

/-- The flag that shows the version. -/
def versionFlag : Flag := ⟨"version", some 'V', .version, "Print version", none⟩

/-- The command that shows help texts. -/
def helpForm : Form :=
  { name := "help"
    about := "Print this message or the help of the given subcommand(s)"
    flags := []
    operand := some ⟨"COMMAND", .text, false, true, "Print help for the subcommand(s)"⟩ }

/-- All commands with the one that shows help texts. -/
def Grammar.allCommands (grammar : Grammar) : List Form := grammar.commands ++ [helpForm]

/-- The flag of a name. -/
def Form.flag? (form : Form) (name : String) : Option Flag :=
  form.flags.find? fun flag => flag.name == name

/-- The flag of a letter. -/
def Form.flagOfLetter? (form : Form) (letter : Char) : Option Flag :=
  form.flags.find? fun flag => flag.letter == some letter

end LiveShader.Arguments
