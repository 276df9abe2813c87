import StackMachine.Decimal.Layout
import StackMachine.Text.Quoted

/-!
# Faults of JSON texts

Why a JSON text is refused. There are three families: the text breaks the grammar, the text ends
too early, or the grammar is kept but the value is not the one that is wanted. Where in the text
that happens, by line and column, is left out of faults and their messages.
-/

namespace StackMachine.Json

/-- How the grammar is broken. -/
inductive SyntaxFault where
  | expectedValue
  | expectedWord
  | expectedColon
  | expectedCommaOrListEnd
  | expectedCommaOrObjectEnd
  | trailingComma
  | trailingCharacters
  | keyMustBeString
  | invalidNumber
  | numberOutOfRange
  | invalidEscape
  | unpairedSurrogate
  | misplacedSurrogate
  | controlCharacter
  | nestedTooDeeply
  deriving DecidableEq, Repr

/-- What the text ends in the middle of. -/
inductive EndFault where
  | inValue
  | inList
  | inObject
  | inString
  deriving DecidableEq, Repr

/-- What is found in place of the wanted value. -/
inductive Found where
  | null
  | boolean (value : Bool)
  | integer (value : Int)
  | floating (value : Decimal.Binary64)
  | string (value : String)
  | sequence
  | map
  deriving DecidableEq, Repr

/-- The value that is wanted. -/
inductive Wanted where
  | program
  | instruction
  | string
  | operand
  | nothing
  deriving DecidableEq, Repr

/-- How a value differs from the wanted one. -/
inductive DataFault where
  /-- The value is of another kind. -/
  | invalidType (found : Found) (wanted : Wanted)
  /-- The value is an integer that does not fit in 64 bits. -/
  | tooLarge (value : Int)
  /-- A key stands twice in an object. -/
  | duplicateField (name : String)
  /-- A key is absent from an object. -/
  | missingField (name : String)
  /-- An instruction is written as an empty list. -/
  | emptyInstruction
  /-- No status has this name. -/
  | unknownStatus (name : String)
  /-- The value was read and then refused. -/
  | refused (reason : String)
  deriving DecidableEq, Repr

/-- Why a JSON text is refused. -/
inductive Fault where
  | grammar (fault : SyntaxFault)
  | ended (fault : EndFault)
  | data (fault : DataFault)
  deriving DecidableEq, Repr

/-! ## Messages -/

/-- Floating-point numbers in messages: positional from `0.00001` up to sixteen digits before the
point, whole numbers with a zero after it. -/
def floatLayout : Decimal.Layout where
  tie := .toEven
  positional exponent := -5 ≤ exponent && exponent ≤ 15
  whole := ".0"
  nan := "NaN"
  infinite := "inf"

/-- The text of a broken rule of the grammar. -/
def SyntaxFault.message : SyntaxFault → String
  | expectedValue => "expected value"
  | expectedWord => "expected ident"
  | expectedColon => "expected `:`"
  | expectedCommaOrListEnd => "expected `,` or `]`"
  | expectedCommaOrObjectEnd => "expected `,` or `\x7d`"
  | trailingComma => "trailing comma"
  | trailingCharacters => "trailing characters"
  | keyMustBeString => "key must be a string"
  | invalidNumber => "invalid number"
  | numberOutOfRange => "number out of range"
  | invalidEscape => "invalid escape"
  | unpairedSurrogate => "unexpected end of hex escape"
  | misplacedSurrogate => "lone leading surrogate in hex escape"
  | controlCharacter => "control character (\\u0000-\\u001F) found while parsing a string"
  | nestedTooDeeply => "recursion limit exceeded"

/-- The text of an early end. -/
def EndFault.message : EndFault → String
  | inValue => "EOF while parsing a value"
  | inList => "EOF while parsing a list"
  | inObject => "EOF while parsing an object"
  | inString => "EOF while parsing a string"

/-- The text of a value that is not the wanted one. -/
def Found.message : Found → String
  | null => "null"
  | boolean value => "boolean `" ++ toString value ++ "`"
  | integer value => "integer `" ++ toString value ++ "`"
  | floating value => "floating point `" ++ String.ofList (floatLayout.text value) ++ "`"
  | string value => "string " ++ Text.quote value
  | sequence => "sequence"
  | map => "map"

/-- The text of a wanted value. -/
def Wanted.message : Wanted → String
  | program => "a sequence"
  | instruction => "struct RawInstruction"
  | string => "a string"
  | operand => "i64"
  | nothing => "unit"

/-- The text of a value's fault. -/
def DataFault.message : DataFault → String
  | invalidType found wanted =>
    "invalid type: " ++ found.message ++ ", expected " ++ wanted.message
  | tooLarge value => "invalid value: integer `" ++ toString value ++ "`, expected i64"
  | duplicateField name => "duplicate field `" ++ name ++ "`"
  | missingField name => "missing field `" ++ name ++ "`"
  | emptyInstruction => "invalid length 0, expected struct RawInstruction with 2 elements"
  | unknownStatus name =>
    "unknown variant `" ++ name ++ "`, expected one of `idle`, `running`, `halted`, `failed`"
  | refused reason => reason

/-- The text of a fault. -/
def Fault.message : Fault → String
  | grammar fault => fault.message
  | ended fault => fault.message
  | data fault => fault.message

end StackMachine.Json
