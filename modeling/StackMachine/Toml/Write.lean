/-!
# Writing TOML strings

A string is written in the plainest of five forms that can hold it: with double quotes, with single
quotes, with three double quotes, with three single quotes, each of these without any escape for a
quote or a backslash, and otherwise with double quotes and escapes. A text with line ends gets three
quotes and starts on a line of its own.
-/

namespace StackMachine.Toml

/-- Whether a character must be escaped wherever it stands. -/
def isControl (c : Char) : Bool :=
  (c < ' ' && c != '\t' && c != '\n') || c == '\x7f'

/-- Whether a text holds three characters of a kind in a row. -/
def hasTriple (quote : Char) : List Char → Bool
  | a :: b :: c :: s =>
    (a == quote && b == quote && c == quote) || hasTriple quote (b :: c :: s)
  | _ => false

/-- A digit in base sixteen, in upper case. -/
def upperHexDigit (n : Nat) : Char :=
  (Nat.digitChar n).toUpper

/-- A character of a string with escapes, quotes and line ends apart. -/
def writeChar (c : Char) : List Char :=
  match c with
  | '\x08' => ['\\', 'b']
  | '\t' => ['\\', 't']
  | '\x0c' => ['\\', 'f']
  | '\r' => ['\\', 'r']
  | '\\' => ['\\', '\\']
  | c =>
    if isControl c then
      ['\\', 'u', '0', '0', upperHexDigit (c.toNat / 16), upperHexDigit (c.toNat % 16)]
    else [c]

/-- The characters of a string on one line. -/
def writeBasic (s : List Char) : List Char :=
  s.flatMap fun c =>
    if c = '"' then ['\\', '"'] else if c = '\n' then ['\\', 'n'] else writeChar c

/-- The characters of a string on several lines, after so many quotes in a row. The third quote in a
row is escaped. -/
def writeLongBasic (quotes : Nat) : List Char → List Char
  | [] => []
  | c :: s =>
    if c = '"' then
      if quotes = 2 then '\\' :: '"' :: writeLongBasic 0 s else '"' :: writeLongBasic (quotes + 1) s
    else if c = '\n' then '\n' :: writeLongBasic 0 s
    else writeChar c ++ writeLongBasic 0 s

/-- A text between three quotes of a kind, on a line of its own if it holds line ends. -/
def between (quote : Char) (hasLines : Bool) (s : List Char) : List Char :=
  let quotes := [quote, quote, quote]
  quotes ++ (if hasLines then ['\n'] else []) ++ s ++ quotes

/-- A string as it is written. -/
def writeString (s : List Char) : List Char :=
  let lines := s.contains '\n'
  let control := s.any isControl
  if !lines && !control && !s.contains '"' && !s.contains '\\' then '"' :: writeBasic s ++ ['"']
  else if !lines && !control && !s.contains '\'' then '\'' :: s ++ ['\'']
  else if !control && !s.contains '\\' && !hasTriple '"' s then
    between '"' lines (writeLongBasic 0 s)
  else if !control && !hasTriple '\'' s then between '\'' lines s
  else if lines then between '"' lines (writeLongBasic 0 s)
  else '"' :: writeBasic s ++ ['"']

end StackMachine.Toml
