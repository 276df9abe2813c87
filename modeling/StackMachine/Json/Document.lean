import StackMachine.Json.Item
import StackMachine.Json.Value

/-!
# JSON documents

Reading a text into a value. Brackets may be nested less than 128 deep.
-/

namespace StackMachine.Json

/-- Reads the items of a bracket up to its end. The first argument bounds the number of items. -/
def readItems {α : Type} (bracket : Bracket) (item : List Char → Reading α) :
    Nat → Bool → List Char → Reading (List α)
  | 0, _, _ => .error (.ended bracket.endFault)
  | bound + 1, first, s =>
    match startItem bracket first s with
    | .error fault => .error fault
    | .ok (.close rest) => .ok ([], rest)
    | .ok (.item s) =>
      match item s with
      | .error fault => .error fault
      | .ok (value, rest) =>
        (readItems bracket item bound false rest).map fun (values, rest) => (value :: values, rest)

/-- Reads a member of an object. -/
def readEntry (value : List Char → Reading Value) (s : List Char) : Reading (String × Value) :=
  match readKey s with
  | .error fault => .error fault
  | .ok (key, s) =>
    match readColon s with
    | .error fault => .error fault
    | .ok s => (value s).map fun (value, rest) => ((key, value), rest)

/-- Reads a value inside of which brackets may be nested as deep as the first argument says. -/
def readValue (depth : Nat) (s : List Char) : Reading Value :=
  match skipBlanks s with
  | [] => .error (.ended .inValue)
  | '[' :: rest =>
    match depth with
    | 0 => .error (.grammar .nestedTooDeeply)
    | depth + 1 =>
      (readItems .list (readValue depth) (rest.length + 1) true rest).map fun (items, rest) =>
        (.list items, rest)
  | '{' :: rest =>
    match depth with
    | 0 => .error (.grammar .nestedTooDeeply)
    | depth + 1 =>
      (readItems .object (readEntry (readValue depth)) (rest.length + 1) true rest).map
        fun (members, rest) => (.object members, rest)
  | '"' :: rest => (readString rest).map fun (text, rest) => (.string (String.ofList text), rest)
  | 'n' :: rest => (readWord ['u', 'l', 'l'] rest).map (.null, ·)
  | 't' :: rest => (readWord ['r', 'u', 'e'] rest).map (.boolean true, ·)
  | 'f' :: rest => (readWord ['a', 'l', 's', 'e'] rest).map (.boolean false, ·)
  | c :: rest =>
    if c = '-' ∨ c.isDigit then
      (readNumber (c :: rest)).map fun (number, rest) => (.number number, rest)
    else .error (.grammar .expectedValue)

/-- How deep brackets may be nested. -/
def greatestDepth : Nat := 127

/-- The value of a text that holds one value and nothing else. -/
def parse (source : String) : Except Fault Value :=
  match readValue greatestDepth source.toList with
  | .error fault => .error fault
  | .ok (value, rest) => (expectEnd rest).map fun () => value

end StackMachine.Json
