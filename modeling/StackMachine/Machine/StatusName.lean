import StackMachine.Json.Item
import StackMachine.Json.Value
import StackMachine.Machine.Basic

/-!
# Names of statuses

The word for each status in JSON texts, and reading a status back: from a string, or from an object
whose only key is the word and whose only value is `null`.
-/

namespace StackMachine.Status

open Json

/-- The word for a status. -/
def name : Status → String
  | idle => "idle"
  | running => "running"
  | halted => "halted"
  | failed => "failed"

/-- The status that a word names. -/
def ofName (name : String) : Except Json.Fault Status :=
  match name with
  | "idle" => .ok idle
  | "running" => .ok running
  | "halted" => .ok halted
  | "failed" => .ok failed
  | _ => .error (.data (.unknownStatus name))

/-- Reads the word for a status after its opening quote. -/
def readName (s : List Char) : Reading Status :=
  match readString s with
  | .error fault => .error fault
  | .ok (text, rest) => (ofName (String.ofList text)).map (·, rest)

/-- Reads a `null`. -/
def readNothing (s : List Char) : Except Json.Fault (List Char) :=
  match skipBlanks s with
  | [] => .error (.ended .inValue)
  | 'n' :: rest => readWord ['u', 'l', 'l'] rest
  | s => .error (mismatch .nothing s)

/-- Reads the only member of an object and the end of the object. -/
def readOnlyMember (s : List Char) : Reading Status :=
  match skipBlanks s with
  | [] => .error (.ended .inObject)
  | '}' :: _ => .error (.grammar .expectedValue)
  | '"' :: rest =>
    match readName rest with
    | .error fault => .error fault
    | .ok (status, rest) =>
      match readColon rest with
      | .error fault => .error fault
      | .ok rest =>
        match readNothing rest with
        | .error fault => .error fault
        | .ok rest =>
          match skipBlanks rest with
          | [] => .error (.ended .inObject)
          | '}' :: rest => .ok (status, rest)
          | _ => .error (.grammar .expectedValue)
  | _ => .error (.grammar .keyMustBeString)

/-- Reads a status. -/
def read (s : List Char) : Reading Status :=
  match skipBlanks s with
  | [] => .error (.ended .inValue)
  | '"' :: rest => readName rest
  | '{' :: rest => readOnlyMember rest
  | _ => .error (.grammar .expectedValue)

/-- The status that a text holds. -/
def decode (source : String) : Except Json.Fault Status :=
  match read source.toList with
  | .error fault => .error fault
  | .ok (status, rest) => (expectEnd rest).map fun () => status

/-- The text of a status. -/
def encode (status : Status) : String :=
  (Json.Value.string status.name).render

end StackMachine.Status
