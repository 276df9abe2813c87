/-!
# Arguments

Reading the arguments of the command line: an option for the configuration file, and a command with
its operand.

The option may stand before the command or behind it, at most once on either side, and the one
behind the command counts more. Behind two dashes everything is an operand. An option or an operand
is checked only when the next one comes or the arguments end, so the faults of a command come before
those of an option that waits in front of it.
-/

namespace StackMachine.CommandLine

/-- A command with its operand. -/
inductive Command where
  /-- Executes a program file. -/
  | run (file : String)
  /-- Executes the demonstration programs, or one of them. -/
  | demo (name : Option String)
  /-- Reads a program file without executing it. -/
  | check (file : String)
  /-- Shows the settings. -/
  | config
  deriving DecidableEq, Repr

/-- What the arguments ask for. -/
structure Invocation where
  /-- The path of the configuration file. -/
  configuration : Option String
  command : Command
  deriving DecidableEq, Repr

/-- Why the arguments ask for nothing. -/
inductive UsageFault where
  /-- An option is unknown, or an operand is too many. -/
  | unknownArgument
  /-- There is no such command. -/
  | unknownCommand
  /-- The command lacks its operand. -/
  | missingOperand
  /-- There is no command, only options. -/
  | missingCommand
  /-- There are no arguments. -/
  | nothingGiven
  /-- Help is asked for. -/
  | helpWanted
  /-- A value is missing or empty. -/
  | invalidValue
  /-- An option that takes no value has one. -/
  | needlessValue
  /-- An option stands twice. -/
  | repeatedOption
  deriving DecidableEq, Repr

/-- How the command line is used. -/
def usage : String :=
  "usage: stackvm [--config PATH] <run FILE | demo [NAME] | check FILE | config>"

/-- The message of arguments that ask for nothing. It is a short one: the argument at fault, the
commands that were perhaps meant, and the long help are left out. -/
def UsageFault.message : UsageFault → String
  | unknownArgument => "error: unexpected argument"
  | unknownCommand => "error: unrecognized command"
  | missingOperand => "error: a required argument is missing"
  | missingCommand => "error: a command is required"
  | nothingGiven => usage
  | helpWanted => usage
  | invalidValue => "error: an option or a file needs a value"
  | needlessValue => "error: the option takes no value"
  | repeatedOption => "error: the option cannot be used more than once"

/-! ## One side of the command -/

/-- What waits to be checked. -/
inductive Pending where
  | nothing
  /-- The option for the configuration file, which has its value or still needs one. -/
  | configuration (value : Option String)
  /-- An operand. -/
  | operand (value : String)
  deriving DecidableEq, Repr

/-- The operand that a command takes. -/
inductive Slot where
  | nothing
  /-- A name, which may be left out and may be empty. -/
  | name
  /-- A file, which must be there and must not be empty. -/
  | file
  deriving DecidableEq, Repr

/-- What is read so far on one side of the command. -/
structure Side where
  slot : Slot := .nothing
  configuration : Option String := none
  operand : Option String := none
  pending : Pending := .nothing
  /-- Whether the operand has come, checked or not. -/
  filled : Bool := false
  /-- Whether two dashes have come. -/
  operandsOnly : Bool := false

namespace Side

/-- Sets the configuration file, which must not be set and must not be empty. -/
def configure (side : Side) (value : String) : Except UsageFault Side :=
  if side.configuration.isSome then .error .repeatedOption
  else if value = "" then .error .invalidValue
  else .ok { side with configuration := some value }

/-- Checks what is pending. -/
def settle (side : Side) : Except UsageFault Side :=
  let settled := { side with pending := .nothing }
  match side.pending with
  | .nothing => .ok settled
  | .configuration none => .error .invalidValue
  | .configuration (some value) => settled.configure value
  | .operand value =>
    if side.slot = .file ∧ value = "" then .error .invalidValue
    else .ok { settled with operand := some value }

/-- Whether the next argument is the value of an option. -/
def awaitsValue (side : Side) : Bool :=
  side.pending == .configuration none

/-- Reads a long option, given by its name and the value behind an equals sign. -/
def readLong (side : Side) (name : List Char) (value : Option String) : Except UsageFault Side :=
  if name = "config".toList then
    match side.settle with
    | .error fault => .error fault
    | .ok side =>
      match value with
      | some value => side.configure value
      | none => .ok { side with pending := .configuration none }
  else if name = "help".toList then
    if value.isSome then .error .needlessValue
    else
      match side.settle with
      | .error fault => .error fault
      | .ok _ => .error .helpWanted
  else .error .unknownArgument

/-- Reads short options, of which there is one. -/
def readShort (side : Side) (letter : Char) : Except UsageFault Side :=
  if letter = 'h' then
    match side.settle with
    | .error fault => .error fault
    | .ok _ => .error .helpWanted
  else .error .unknownArgument

/-- Reads an option or the value of one. There is no answer for an argument that is neither. -/
def readOption? (side : Side) (argument : String) : Option (Except UsageFault Side) :=
  if side.operandsOnly then none
  else
    match argument.toList with
    | ['-', '-'] => some (.ok { side with operandsOnly := true })
    | '-' :: '-' :: long =>
      let value := match long.dropWhile (· != '=') with
        | '=' :: value => some (String.ofList value)
        | _ => none
      some (side.readLong (long.takeWhile (· != '=')) value)
    | '-' :: letter :: _ => some (side.readShort letter)
    | _ =>
      if side.awaitsValue then
        some (.ok { side with pending := .configuration (some argument) })
      else none

/-- Reads an operand. -/
def readOperand (side : Side) (argument : String) : Except UsageFault Side :=
  if side.slot = .nothing ∨ side.filled then .error .unknownArgument
  else
    match side.settle with
    | .error fault => .error fault
    | .ok side => .ok { side with pending := .operand argument, filled := true }

/-- Reads the arguments behind a command. -/
def read (side : Side) : List String → Except UsageFault Side
  | [] => side.settle
  | argument :: rest =>
    match (side.readOption? argument).getD (side.readOperand argument) with
    | .error fault => .error fault
    | .ok side => side.read rest

end Side

/-! ## Commands -/

/-- The words for commands. -/
inductive Word where
  | run
  | demo
  | check
  | config
  | help
  deriving DecidableEq, Repr

/-- The command that a word names. -/
def Word.ofString? : String → Option Word
  | "run" => some run
  | "demo" => some demo
  | "check" => some check
  | "config" => some config
  | "help" => some help
  | _ => none

/-- The operand that the command of a word takes. -/
def Word.slot : Word → Slot
  | run => .file
  | demo => .name
  | check => .file
  | config => .nothing
  | help => .nothing

/-- The command of a word and its operand. -/
def Word.command (word : Word) (operand : Option String) : Except UsageFault Command :=
  match word, operand with
  | run, some file => .ok (.run file)
  | check, some file => .ok (.check file)
  | demo, name => .ok (.demo name)
  | config, _ => .ok .config
  | help, _ => .error .helpWanted
  | _, none => .error .missingOperand

/-- Reads what help is wanted about: nothing, or one command. -/
def readHelp : List String → UsageFault
  | [] => .helpWanted
  | [topic] => if (Word.ofString? topic).isSome then .helpWanted else .unknownCommand
  | _ => .unknownCommand

/-- Reads a command and the arguments behind it, and then checks what waits in front of it. -/
def readCommand (front : Side) (word : Word) (rest : List String) :
    Except UsageFault Invocation :=
  match Side.read { slot := word.slot } rest with
  | .error fault => .error fault
  | .ok behind =>
    match word.command behind.operand with
    | .error fault => .error fault
    | .ok command =>
      match front.settle with
      | .error fault => .error fault
      | .ok front => .ok ⟨behind.configuration <|> front.configuration, command⟩

/-- Reads the arguments from the front of a command on. -/
def readFront (front : Side) : List String → Except UsageFault Invocation
  | [] =>
    match front.settle with
    | .error fault => .error fault
    | .ok front =>
      if front.configuration.isSome then .error .missingCommand else .error .nothingGiven
  | argument :: rest =>
    let word := Word.ofString? argument
    if front.operandsOnly then
      .error (if word.isSome then .unknownArgument else .unknownCommand)
    else
      match if front.awaitsValue then none else word with
      | some .help => .error (readHelp rest)
      | some word => readCommand front word rest
      | none =>
        match front.readOption? argument with
        | none => .error .unknownCommand
        | some (.error fault) => .error fault
        | some (.ok front) => readFront front rest

/-- Reads the arguments. -/
def Invocation.ofArguments (arguments : List String) : Except UsageFault Invocation :=
  readFront {} arguments

end StackMachine.CommandLine
