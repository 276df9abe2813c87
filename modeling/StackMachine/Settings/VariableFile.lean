import StackMachine.Settings.Source
import StackMachine.Text.Alphanumeric

/-!
# Files of environment variables

A file of lines `KEY=value` adds variables to the environment and never replaces one. The first line
that is not well formed ends the reading without a complaint; the lines before it count.

A value may be quoted. Between single quotes everything stands for itself. Elsewhere a backslash
escapes, and `$name` or `${name}` stands for a variable. A quoted value may run over several lines.
-/

namespace StackMachine.Settings.VariableFile

/-! ## Lines -/

/-- The characters of a line that is given in reverse, if it is valid UTF-8. -/
def decodeLine (line : List UInt8) : Option (List Char) :=
  (String.fromUTF8? ⟨line.reverse.toArray⟩).map String.toList

/-- The lines of a file with their line ends, behind the start of a line that is given in reverse.
-/
def physicalLines (line : List UInt8) : List UInt8 → List (Option (List Char))
  | [] => if line = [] then [] else [decodeLine line]
  | byte :: bytes =>
    if byte = 10 then decodeLine (byte :: line) :: physicalLines [] bytes
    else physicalLines (byte :: line) bytes

/-- Where in its quoting a line is. -/
inductive Quoting where
  | plain
  | blank
  | escape
  | double
  | doubleEscape
  | single
  | singleEscape
  deriving DecidableEq, Repr

/-- The quoting after a character. -/
def Quoting.next (c : Char) : Quoting → Quoting
  | plain =>
    if Text.isBlank c && c != '\n' && c != '\r' then blank
    else if c = '\\' then escape
    else if c = '"' then double
    else if c = '\'' then single
    else plain
  | blank =>
    if c = '\\' then escape
    else if c = '"' then double
    else if c = '\'' then single
    else plain
  | escape => plain
  | double => if c = '\\' then doubleEscape else if c = '"' then plain else double
  | doubleEscape => double
  | single => if c = '\\' then singleEscape else if c = '\'' then plain else single
  | singleEscape => single

/-- How a piece of a line ends. -/
inductive PieceEnd where
  /-- Without a comment. -/
  | quoting (quoting : Quoting)
  /-- With a comment, after these characters. -/
  | comment (before : List Char)

/-- Goes through a piece of a line. A comment starts at a number sign after a blank. -/
def scan (quoting : Quoting) : List Char → PieceEnd
  | [] => .quoting quoting
  | c :: s =>
    if quoting = .blank ∧ c = '#' then .comment []
    else
      match scan (quoting.next c) s with
      | .comment before => .comment (c :: before)
      | ended => ended

/-- A line without its line end. -/
def chop (line : List Char) : List Char :=
  match line.reverse with
  | '\n' :: '\r' :: s => s.reverse
  | '\n' :: s => s.reverse
  | _ => line

/-- Takes the next line off the front, putting pieces together until its quotes are closed. There is
none at the end, and none from a piece on that is no text. -/
def takeLine (before : List Char) (quoting : Quoting) :
    List (Option (List Char)) → Option (List Char × List (Option (List Char)))
  | [] => none
  | none :: _ => none
  | some piece :: rest =>
    let line := before ++ piece
    if (Text.trimStart line).head? = some '#' then some ([], rest)
    else
      match scan quoting piece with
      | .comment kept => some (before ++ kept, rest)
      | .quoting .plain => some (chop line, rest)
      | .quoting unclosed => takeLine line unclosed rest

/-! ## Values -/

/-- The value of a variable; nothing if it is not set. An equals sign in the name ends the name of
the variable. What follows it must stand at the front of the value, with another equals sign behind
it, and is left out with that sign. -/
def valueOf (env : Variables) (name : List Char) : List Char :=
  let named := name.takeWhile (· != '=')
  match env.lookup (String.ofList named) with
  | none => []
  | some value =>
    match name.dropWhile (· != '=') with
    | [] => value.toList
    | _ :: start =>
      let front := start ++ ['=']
      if front.isPrefixOf value.toList then value.toList.drop front.length else []

/-- What a character of a value is part of. -/
inductive Mode where
  | plain
  | escape
  | single
  | name (name : List Char)
  | bracedName (name : List Char)
  /-- Behind the value, where only a comment may stand. -/
  | behind
  deriving DecidableEq, Repr

/-- Reads a value. `double` tells whether the text is between double quotes. A character that ends a
variable's name stands for itself, unless it starts another name. -/
def readValue (env : Variables) (double : Bool) (mode : Mode) :
    List Char → Option (List Char)
  | [] =>
    if double then none
    else
      match mode with
      | .single => none
      | .bracedName _ => none
      | .name name => some (valueOf env name)
      | _ => some []
  | c :: s =>
    let go (double : Bool) (mode : Mode) (text : List Char) : Option (List Char) :=
      (readValue env double mode s).map (text ++ ·)
    match mode with
    | .behind =>
      if c = ' ' ∨ c = '\t' then go double .behind []
      else if c = '#' then some []
      else none
    | .escape =>
      if c = '\\' ∨ c = '\'' ∨ c = '"' ∨ c = '$' ∨ c = ' ' then go double .plain [c]
      else if c = 'n' then go double .plain ['\n']
      else none
    | .single => if c = '\'' then go double .plain [] else go double .single [c]
    | .name name =>
      if Text.isAlphanumeric c then go double (.name (name ++ [c])) []
      else if c = '{' ∧ name = [] then go double (.bracedName []) []
      else if c = '$' then go double (.name []) (valueOf env name)
      else go double .plain (valueOf env name ++ [c])
    | .bracedName name =>
      if c = '}' then go double .plain (valueOf env name)
      else go double (.bracedName (name ++ [c])) []
    | .plain =>
      if c = '$' then go double (.name []) []
      else if c = '\\' then go double .escape []
      else if c = '"' then go (!double) .plain []
      else if double then go double .plain [c]
      else if c = '\'' then go double .single []
      else if c = ' ' ∨ c = '\t' then go double .behind []
      else go double .plain [c]

/-! ## Assignments -/

/-- Reads the name of a variable. -/
def readName (s : List Char) : Option (List Char × List Char) :=
  let isPart (c : Char) : Bool := c.isAlphanum || c == '_' || c == '.'
  match s with
  | c :: _ =>
    if c.isAlpha || c == '_' then some (s.takeWhile isPart, s.dropWhile isPart) else none
  | [] => none

/-- Reads an equals sign and the blanks after it. -/
def readEquals : List Char → Option (List Char)
  | '=' :: s => some (Text.trimStart s)
  | _ => none

/-- Reads a name and an equals sign. The word `export` may stand in front of them, and is a name
where an equals sign follows. -/
def readTarget (s : List Char) : Option (List Char × List Char) :=
  match readName s with
  | none => none
  | some (name, rest) =>
    let rest := Text.trimStart rest
    match readEquals rest with
    | some value => some (name, value)
    | none =>
      if name = "export".toList then
        match readName rest with
        | none => none
        | some (name, rest) =>
          (readEquals (Text.trimStart rest)).map fun value => (name, value)
      else none

/-- What a line says: an assignment, or nothing. There is no answer for a line that is not well
formed. -/
def readLine (env : Variables) (line : List Char) : Option (Option (String × String)) :=
  let s := Text.trimStart (Text.trimEnd line)
  if s = [] ∨ s.head? = some '#' then some none
  else
    match readTarget s with
    | none => none
    | some (name, value) =>
      let assigned (text : List Char) : Option (String × String) :=
        some (String.ofList name, String.ofList text)
      if value.head? = some '#' then some (assigned [])
      else (readValue env false .plain value).map assigned

/-- The environment with one more variable, unless it is set. A value with a zero character is taken
like any other, although no system can hold one and setting it ends the program; that end is left
out. -/
def assign (env : Variables) (name value : String) : Variables :=
  match env.lookup name with
  | some _ => env
  | none => env ++ [(name, value)]

/-- The environment after the lines of a file. The first argument bounds their number. -/
def run : Nat → Variables → List (Option (List Char)) → Variables
  | 0, env, _ => env
  | bound + 1, env, pieces =>
    match takeLine [] .plain pieces with
    | none => env
    | some (line, rest) =>
      match readLine env line with
      | none => env
      | some none => run bound env rest
      | some (some (name, value)) => run bound (assign env name value) rest

/-- The bytes without a byte order mark at their front. -/
def skipMark : List UInt8 → List UInt8
  | 0xef :: 0xbb :: 0xbf :: bytes => bytes
  | bytes => bytes

/-- The environment after a file of variables. -/
def load (bytes : ByteArray) (env : Variables) : Variables :=
  let pieces := physicalLines [] (skipMark bytes.toList)
  run pieces.length env pieces

end StackMachine.Settings.VariableFile
