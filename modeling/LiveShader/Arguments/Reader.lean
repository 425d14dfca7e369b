import LiveShader.Arguments.Help
import LiveShader.Text.Likeness

/-!
# Reading a command line

Arguments are read from left to right.  A value that was read is checked when the
next flag or operand asks for it, or at the end; so of two faults the one that is
noticed first wins, not the one that stands first.  After `--` all arguments are
operands.
-/

namespace LiveShader.Arguments

/-- Why reading stopped. -/
inductive Stop where
  | usage (error : UsageError)
  /-- A help text was asked for and nothing else. -/
  | help (text : String)
  /-- The version was asked for and nothing else. -/
  | version (text : String)
  deriving Repr, DecidableEq

/-- Values by the name of their flag or the label of their operand. -/
abbrev Found := List (String × String)

/-- The value under a name. -/
def Found.get? (found : Found) (name : String) : Option String :=
  (found.find? fun entry => entry.1 == name).map Prod.snd

/-- Whether there is a value under a name. -/
def Found.has (found : Found) (name : String) : Bool := (found.get? name).isSome

/-- A flag or operand whose value is not checked yet. -/
structure Pending where
  name : String
  kind : ValueKind
  /-- The value, if it was read. -/
  value : Option String
  deriving Repr, DecidableEq

/-- What was read so far. -/
structure Progress where
  found : Found
  pending : Option Pending
  /-- Whether all that follows is operands. -/
  onlyOperands : Bool
  hasOperand : Bool
  deriving Repr, DecidableEq

/-- What an argument looks like. -/
inductive Shape where
  | separator
  | long (name : String) (attached : Option String)
  | letters (letters : List Char)
  | plain
  deriving Repr, DecidableEq

/-- A name and the value after an equals sign, if there is one. -/
def Shape.ofLong (text : List Char) : Shape :=
  match Text.cutOn? (· == '=') text with
  | some (name, value) => .long (String.ofList name) (some (String.ofList value))
  | none => .long (String.ofList text) none

/-- What an argument looks like. -/
def Shape.of (argument : String) : Shape :=
  match argument.toList with
  | ['-', '-'] => .separator
  | '-' :: '-' :: text => .ofLong text
  | ['-'] => .plain
  | '-' :: text => .letters text
  | _ => .plain

namespace Progress

/-- Nothing read yet. -/
def start : Progress := ⟨[], none, false, false⟩

/-- Checks and keeps a value. -/
def store (progress : Progress) (name : String) (kind : ValueKind) (value : String) :
    Except Stop Progress :=
  if progress.found.has name then .error (.usage .conflict)
  else
    match kind.fault? value with
    | some fault => .error (.usage fault)
    | none => .ok { progress with found := (name, value) :: progress.found }

/-- Checks and keeps the value that is not checked yet. -/
def settle (progress : Progress) : Except Stop Progress :=
  match progress.pending with
  | none => .ok progress
  | some ⟨_, _, none⟩ => .error (.usage .noValue)
  | some ⟨name, kind, some value⟩ => { progress with pending := none }.store name kind value

/-- Whether the next argument is the value of a flag, if it looks like one. -/
def awaitsValue (progress : Progress) : Bool :=
  match progress.pending with
  | some ⟨_, _, none⟩ => true
  | _ => false

/-- Takes an argument as the value that is awaited. -/
def give (progress : Progress) (value : String) : Progress :=
  { progress with
    pending := progress.pending.map fun pending => { pending with value := some value } }

/-- Turns a switch on and its opposite off. -/
def turnOn (progress : Progress) (name : String) (opposite : Option String) :
    Except Stop Progress :=
  if progress.found.has name then .error (.usage .conflict)
  else
    let others := progress.found.filter fun entry => opposite != some entry.1
    .ok { progress with found := (name, "true") :: others }

end Progress

/-- What the texts of a command are made from. -/
structure Texts where
  help : String
  version : String

/-- Reads a flag. -/
def readFlag (texts : Texts) (progress : Progress) (flag : Flag) (attached : Option String) :
    Except Stop Progress :=
  match flag.role, attached with
  | .value kind _, some value => do (← progress.settle).store flag.name kind value
  | .value kind _, none => do
      .ok { (← progress.settle) with pending := some ⟨flag.name, kind, none⟩ }
  | .switch opposite, none => do (← progress.settle).turnOn flag.name opposite
  | .help, none => do
      let _ ← progress.settle
      .error (.help texts.help)
  | .version, none => do
      let _ ← progress.settle
      .error (.version texts.version)
  | _, some _ => .error (.usage .valueForSwitch)

/-- Reads flags that are given by their letters. -/
def readLetters (form : Form) (texts : Texts) : Progress → List Char → Except Stop Progress
  | progress, [] => .ok progress
  | progress, letter :: rest =>
      match form.flagOfLetter? letter with
      | none => .error (.usage .unknownArgument)
      | some flag =>
          match readFlag texts progress flag none with
          | .error stop => .error stop
          | .ok progress => readLetters form texts progress rest

/-- The error for an operand too many, which may be a command that is misspelt. -/
def surplusError (commands : List Form) (progress : Progress) (argument : String) : UsageError :=
  let names := commands.map Form.name
  if progress.onlyOperands && names.contains argument then .unknownArgument
  else if names.any (Text.isAlike argument) then .unknownCommand
  else .unknownArgument

/-- Reads an operand. -/
def readOperand (form : Form) (commands : List Form) (progress : Progress) (argument : String) :
    Except Stop Progress :=
  match form.operand, progress.hasOperand with
  | some operand, false => do
      .ok { (← progress.settle) with
        pending := some ⟨operand.label, operand.kind, some argument⟩
        hasOperand := true }
  | _, _ => .error (.usage (surplusError commands progress argument))

/-- What a command makes of the arguments after it, by the name of the command. -/
abbrev Enter := String → Option (List String → Except Stop (String × Found))

/-- Reads arguments up to the end or to a command. -/
def readArguments (form : Form) (commands : List Form) (texts : Texts) (enter : Enter) :
    Progress → List String → Except Stop (Progress × Option (String × Found))
  | progress, [] => .ok (progress, none)
  | progress, argument :: rest =>
      let goOn (read : Except Stop Progress) :=
        match read with
        | .error stop => .error stop
        | .ok progress => readArguments form commands texts enter progress rest
      if progress.onlyOperands then goOn (readOperand form commands progress argument)
      else
        match (if progress.awaitsValue then none else enter argument) with
        | some command => (command rest).map fun found => (progress, some found)
        | none =>
            match Shape.of argument with
            | .separator => goOn (.ok { progress with onlyOperands := true })
            | .long name attached =>
                match form.flag? name with
                | none => .error (.usage .unknownArgument)
                | some flag => goOn (readFlag texts progress flag attached)
            | .letters letters => goOn (readLetters form texts progress letters)
            | .plain =>
                if progress.awaitsValue then goOn (.ok (progress.give argument))
                else goOn (readOperand form commands progress argument)

/-- Takes the values of flags that were not given from the environment. -/
def fillIn (lookup : String → Option String) : Progress → List Flag → Except Stop Progress
  | progress, [] => .ok progress
  | progress, flag :: rest =>
      match flag.role, flag.variableName.bind lookup with
      | .value kind _, some value =>
          if progress.found.has flag.name then fillIn lookup progress rest
          else
            match progress.store flag.name kind value with
            | .error stop => .error stop
            | .ok progress => fillIn lookup progress rest
      | _, _ => fillIn lookup progress rest

/-- Whether an operand is missing. -/
def lacksOperand (form : Form) (found : Found) : Bool :=
  match form.operand with
  | some operand => operand.isRequired && !found.has operand.label
  | none => false

/-- The values of a form at the end of its arguments. -/
def finish (form : Form) (lookup : String → Option String) (progress : Progress) :
    Except Stop Found := do
  let progress ← fillIn lookup (← progress.settle) form.flags
  if lacksOperand form progress.found then .error (.usage .missingOperand)
  else .ok progress.found

/-- What the command for help makes of the arguments after it. -/
def Grammar.helpFor (grammar : Grammar) (lookup : String → Option String) :
    List String → Stop
  | [] => .help (grammar.helpText lookup)
  | [name] =>
      match grammar.allCommands.find? fun form => form.name == name with
      | some form => .help (grammar.commandHelp lookup form)
      | none => .usage .unknownCommand
  | _ => .usage .unknownCommand

/-- Reads the arguments of one command. -/
def Grammar.readCommand (grammar : Grammar) (lookup : String → Option String) (form : Form)
    (arguments : List String) : Except Stop (String × Found) := do
  let texts : Texts := ⟨grammar.commandHelp lookup form, grammar.versionText⟩
  let (progress, _) ← readArguments form [] texts (fun _ => none) .start arguments
  .ok (form.name, ← finish form lookup progress)

/-- What the commands of a grammar make of the arguments after them. -/
def Grammar.enter (grammar : Grammar) (lookup : String → Option String) : Enter :=
  fun name =>
    if name == helpForm.name then some fun rest => .error (grammar.helpFor lookup rest)
    else
      (grammar.commands.find? fun form => form.name == name).map
        (grammar.readCommand lookup)

/-- What a command line says: values of the program, and a command with its own values. -/
structure Reading where
  found : Found
  command : Option (String × Found)
  deriving Repr, DecidableEq

/-- Reads a command line. -/
def Grammar.read (grammar : Grammar) (lookup : String → Option String)
    (arguments : List String) : Except Stop Reading := do
  let texts : Texts := ⟨grammar.helpText lookup, grammar.versionText⟩
  let (progress, command) ←
    readArguments grammar.main grammar.allCommands texts (grammar.enter lookup) .start
      arguments
  .ok ⟨← finish grammar.main lookup progress, command⟩

end LiveShader.Arguments
