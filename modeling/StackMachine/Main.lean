import StackMachine.CommandLine.Run

/-!
# The command line

Reads what a command may need, carries it out, and writes what it leaves behind. What a command does
is decided elsewhere, without input and output. The log of a command is not written.
-/

namespace StackMachine.CommandLine

/-- The reason that an error number of the system gives. Some numbers come with their sign changed.
-/
def faultOfNumber (number : UInt32) (details : String) : Files.FileFault :=
  let number := if number < 0x80000000 then number else 0 - number
  if number = 2 then .missing
  else if number = 21 then .isDirectory
  else if number = 20 then .notDirectory
  else if number = 36 then .nameTooLong
  else .other (details ++ " (os error " ++ toString number ++ ")")

/-- The reason why a file could not be read. -/
def faultOfError : IO.Error → Files.FileFault
  | .noFileOrDirectory _ number details => faultOfNumber number details
  | .inappropriateType _ number details => faultOfNumber number details
  | .invalidArgument _ number details => faultOfNumber number details
  | .permissionDenied _ number details => faultOfNumber number details
  | .resourceExhausted _ number details => faultOfNumber number details
  | .hardwareFault number details => faultOfNumber number details
  | .otherError number details => faultOfNumber number details
  | error => .other (toString error)

/-- Looks a path up. -/
def lookUp (path : String) : IO Files.Lookup := do
  match ← (IO.FS.readBinFile path).toBaseIO with
  | .ok bytes => return .ok bytes
  | .error error => return .error (faultOfError error)

/-- The variables that the system hands over: assignments, each ended by a zero. One that is not
valid UTF-8 is passed over, and does not end the program. -/
def variablesOfBytes (bytes : List UInt8) : Settings.Variables :=
  (bytes.splitOnP (· == 0)).filterMap fun assignment =>
    match assignment.span (· != 61) with
    | (name, _ :: value) =>
      match String.fromUTF8? ⟨name.toArray⟩, String.fromUTF8? ⟨value.toArray⟩ with
      | some name, some value => some (name, value)
      | _, _ => none
    | (_, []) => none

/-- The variables of the environment. There are none where the system does not hand them over. -/
def readVariables : IO Settings.Variables := do
  match ← lookUp "/proc/self/environ" with
  | .ok bytes => return variablesOfBytes bytes.toList
  | .error _ => return []

/-- What a command that looks some paths up finds around it. -/
def surroundings (paths : List String) : IO Surroundings := do
  let found ← paths.mapM fun path => return (path, ← lookUp path)
  let env ← readVariables
  return ⟨env, fun path => (found.lookup path).getD (.error .missing)⟩

/-- Carries out what the arguments ask for, and gives the exit code. -/
def runArguments (arguments : List String) : IO UInt32 := do
  match Invocation.ofArguments arguments with
  | .error .helpWanted =>
    IO.println usage
    return 0
  | .error fault =>
    IO.eprintln fault.message
    return 2
  | .ok invocation =>
    let outcome := invocation.execute (← surroundings invocation.paths)
    IO.print outcome.output
    match outcome.result with
    | .ok () => return 0
    | .error fault =>
      IO.eprintln ("Error: " ++ fault.message)
      return 1

end StackMachine.CommandLine

/-- Runs the command line. -/
def main (arguments : List String) : IO UInt32 :=
  StackMachine.CommandLine.runArguments arguments
