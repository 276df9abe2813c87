import StackMachine.Json.Number

/-!
# JSON values

Values and their compact texts: no blanks, members in their own order, and in strings an escape
exactly where the grammar asks for one.
-/

namespace StackMachine.Json

/-- A JSON value. The members of an object are kept in order. -/
inductive Value where
  | null
  | boolean (value : Bool)
  | number (value : Number)
  | string (value : String)
  | list (items : List Value)
  | object (members : List (String × Value))

namespace Value

/-- The value of an integer. -/
def integer (n : Int) : Value := number (.integer n)

/-- The value of a list of words. -/
def integers (values : List Int64) : Value := list (values.map fun value => integer value.toInt)

end Value

/-- One digit in base sixteen, in lower case. -/
def hexDigit (n : Nat) : Char :=
  Nat.digitChar n

/-- A character of a string as it is written. -/
def writeChar (c : Char) : List Char :=
  match c with
  | '"' => ['\\', '"']
  | '\\' => ['\\', '\\']
  | '\x08' => ['\\', 'b']
  | '\x0c' => ['\\', 'f']
  | '\n' => ['\\', 'n']
  | '\r' => ['\\', 'r']
  | '\t' => ['\\', 't']
  | c =>
    if c < ' ' then ['\\', 'u', '0', '0', hexDigit (c.toNat / 16), hexDigit (c.toNat % 16)]
    else [c]

/-- A string as it is written. -/
def writeString (s : String) : List Char :=
  '"' :: s.toList.flatMap writeChar ++ ['"']

/-- An integer as it is written. -/
def writeInteger (n : Int) : List Char :=
  if n < 0 then '-' :: Decimal.digitsOf n.natAbs else Decimal.digitsOf n.natAbs

/-- A number as it is written. -/
def writeNumber : Number → List Char
  | .integer n => writeInteger n
  | .floating x => floatLayout.text x

mutual

/-- The compact text of a value. -/
def Value.write : Value → List Char
  | .null => "null".toList
  | .boolean true => "true".toList
  | .boolean false => "false".toList
  | .number n => writeNumber n
  | .string s => writeString s
  | .list items => '[' :: Value.writeItems items ++ [']']
  | .object members => '{' :: Value.writeMembers members ++ ['}']

/-- Items with commas between them. -/
def Value.writeItems : List Value → List Char
  | [] => []
  | [item] => item.write
  | item :: next :: items => item.write ++ ',' :: Value.writeItems (next :: items)

/-- Members with commas between them. -/
def Value.writeMembers : List (String × Value) → List Char
  | [] => []
  | [(key, value)] => writeString key ++ ':' :: value.write
  | (key, value) :: next :: members =>
    writeString key ++ ':' :: value.write ++ ',' :: Value.writeMembers (next :: members)

end

/-- The compact text of a value. -/
def Value.render (value : Value) : String :=
  String.ofList value.write

end StackMachine.Json
