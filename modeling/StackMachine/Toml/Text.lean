import StackMachine.Text.Character

/-!
# Strings, keys and the space between

The four kinds of TOML strings, dotted keys, and what may stand between tokens: blanks on a line,
comments, and line ends.
-/

namespace StackMachine.Toml

/-- What a reader gives: a value with the characters after it, or nothing if the text is no TOML. -/
abbrev Reading (α : Type) := Option (α × List Char)

/-! ## Space -/

/-- The blanks on a line. -/
def isBlank (c : Char) : Bool :=
  c == ' ' || c == '\t'

/-- The text from its first character that is no blank. -/
def skipBlanks (s : List Char) : List Char :=
  s.dropWhile isBlank

/-- Whether a character may stand in a comment, and in strings as far as they give it no other
meaning: all but the controls, of which the tab is allowed. -/
def isPlain (c : Char) : Bool :=
  c == '\t' || (' ' ≤ c && c != '\x7f')

/-- Reads a line end. -/
def readNewline : List Char → Option (List Char)
  | '\n' :: s => some s
  | '\r' :: '\n' :: s => some s
  | _ => none

/-- The text after a comment, if one starts here. -/
def skipComment : List Char → List Char
  | '#' :: s => s.dropWhile isPlain
  | s => s

/-- Reads what may follow on a line: blanks, a comment, and the end of the line or the text. -/
def readLineEnd (s : List Char) : Option (List Char) :=
  match skipComment (skipBlanks s) with
  | [] => some []
  | s => readNewline s

/-- Passing over blanks and a comment adds nothing. -/
theorem length_skipComment_skipBlanks_le (s : List Char) :
    (skipComment (skipBlanks s)).length ≤ s.length := by
  have blanks := (List.dropWhile_sublist (l := s) isBlank).length_le
  unfold skipComment skipBlanks
  split
  · rename_i rest front
    have comment := (List.dropWhile_sublist (l := rest) isPlain).length_le
    rw [front, List.length_cons] at blanks
    omega
  · exact blanks

/-- The text after all blanks, comments and line ends at its front. -/
def skipSpace (s : List Char) : List Char :=
  match _skipped : skipComment (skipBlanks s) with
  | '\n' :: rest => skipSpace rest
  | '\r' :: '\n' :: rest => skipSpace rest
  | s => s
termination_by s.length
decreasing_by
  all_goals
    have shorter := length_skipComment_skipBlanks_le s
    rw [_skipped] at shorter
    simp only [List.length_cons] at shorter
    omega

/-! ## Escapes -/

/-- The number that digits in base sixteen write after `n`. -/
def hexNumber? (n : Nat) : List Char → Option Nat
  | [] => some n
  | c :: s =>
    match Text.hexValue? c with
    | some digit => hexNumber? (n * 16 + digit) s
    | none => none

/-- Reads a character by its number, written with a fixed count of digits. -/
def readNumbered (count : Nat) (s : List Char) : Reading Char :=
  if (s.take count).length < count then none
  else
    match hexNumber? 0 (s.take count) with
    | none => none
    | some n => if n.isValidChar then some (Char.ofNat n, s.drop count) else none

/-- Reads an escape after its backslash. -/
def readEscape : List Char → Reading Char
  | 'b' :: s => some ('\x08', s)
  | 't' :: s => some ('\t', s)
  | 'n' :: s => some ('\n', s)
  | 'f' :: s => some ('\x0c', s)
  | 'r' :: s => some ('\r', s)
  | '"' :: s => some ('"', s)
  | '\\' :: s => some ('\\', s)
  | 'u' :: s => readNumbered 4 s
  | 'U' :: s => readNumbered 8 s
  | _ => none

/-- An escape is read from the front. -/
theorem length_lt_of_readEscape {s rest : List Char} {c : Char}
    (h : readEscape s = some (c, rest)) : rest.length < s.length := by
  have numbered {count : Nat} {s : List Char} (h : readNumbered count s = some (c, rest)) :
      rest.length ≤ s.length := by
    unfold readNumbered at h
    split at h
    · simp at h
    · split at h
      · simp at h
      · split at h
        · simp only [Option.some.injEq, Prod.mk.injEq] at h
          rw [← h.2, List.length_drop]
          omega
        · simp at h
  unfold readEscape at h
  split at h
  case h_8 => have := numbered h; simp only [List.length_cons]; omega
  case h_9 => have := numbered h; simp only [List.length_cons]; omega
  case h_10 => simp at h
  all_goals
    simp only [Option.some.injEq, Prod.mk.injEq] at h
    simp [← h.2]

/-! ## Strings on one line -/

/-- Places a character in front of the text that a reader gives. -/
def prepend (c : Char) (reading : Reading (List Char)) : Reading (List Char) :=
  reading.map fun (text, rest) => (c :: text, rest)

/-- Reads a string with escapes after its opening quote. -/
def readBasic : List Char → Reading (List Char)
  | [] => none
  | '"' :: s => some ([], s)
  | '\\' :: s =>
    match _read : readEscape s with
    | none => none
    | some (c, rest) => prepend c (readBasic rest)
  | c :: s => if isPlain c then prepend c (readBasic s) else none
termination_by s => s.length
decreasing_by
  · have := length_lt_of_readEscape _read
    simp only [List.length_cons]
    omega
  · simp

/-- Reads a string without escapes after its opening quote. -/
def readLiteral : List Char → Reading (List Char)
  | [] => none
  | '\'' :: s => some ([], s)
  | c :: s => if isPlain c then prepend c (readLiteral s) else none

/-! ## Strings on several lines -/

/-- The text without a line end at its front. -/
def skipNewline (s : List Char) : List Char :=
  (readNewline s).getD s

/-- The text after the blanks and line ends at its front. -/
def dropBlankLines : List Char → List Char
  | '\n' :: s => dropBlankLines s
  | '\r' :: '\n' :: s => dropBlankLines s
  | c :: s => if isBlank c then dropBlankLines s else c :: s
  | [] => []

/-- Dropping adds nothing. -/
theorem length_dropBlankLines_le (s : List Char) : (dropBlankLines s).length ≤ s.length := by
  fun_induction dropBlankLines s <;> simp only [List.length_cons, List.length_nil] <;> omega

/-- The text after a backslash at the end of a line: all blanks and line ends that follow are
dropped. There is none if something else follows the backslash on its line. -/
def readContinuation (s : List Char) : Option (List Char) :=
  (readNewline (skipBlanks s)).map dropBlankLines

/-- A continued line is read from the front. -/
theorem length_le_of_readContinuation {s rest : List Char}
    (h : readContinuation s = some rest) : rest.length ≤ s.length := by
  simp only [readContinuation, Option.map_eq_some_iff] at h
  obtain ⟨after, newline, dropped⟩ := h
  have blanks := (List.dropWhile_sublist (l := s) isBlank).length_le
  have inner := length_dropBlankLines_le after
  have shrinks : after.length ≤ (skipBlanks s).length := by
    unfold readNewline at newline
    split at newline <;> simp_all
    omega
  rw [dropped] at inner
  simp only [skipBlanks] at shrinks
  omega

/-- Reads a string with escapes after its three opening quotes and the line end that may follow
them. Up to two quotes may stand in front of the closing ones. -/
def readLongBasic : List Char → Reading (List Char)
  | [] => none
  | '"' :: '"' :: '"' :: '"' :: '"' :: s => some (['"', '"'], s)
  | '"' :: '"' :: '"' :: '"' :: s => some (['"'], s)
  | '"' :: '"' :: '"' :: s => some ([], s)
  | '\\' :: s =>
    match _read : readEscape s with
    | some (c, rest) => prepend c (readLongBasic rest)
    | none =>
      match _continued : readContinuation s with
      | some rest => readLongBasic rest
      | none => none
  | '\n' :: s => prepend '\n' (readLongBasic s)
  | '\r' :: '\n' :: s => prepend '\n' (readLongBasic s)
  | c :: s => if isPlain c then prepend c (readLongBasic s) else none
termination_by s => s.length
decreasing_by
  · have := length_lt_of_readEscape _read
    simp only [List.length_cons]
    omega
  · have := length_le_of_readContinuation _continued
    simp only [List.length_cons]
    omega
  all_goals simp only [List.length_cons]; omega

/-- Reads a string without escapes after its three opening quotes and the line end that may follow
them. -/
def readLongLiteral : List Char → Reading (List Char)
  | [] => none
  | '\'' :: '\'' :: '\'' :: '\'' :: '\'' :: s => some (['\'', '\''], s)
  | '\'' :: '\'' :: '\'' :: '\'' :: s => some (['\''], s)
  | '\'' :: '\'' :: '\'' :: s => some ([], s)
  | '\n' :: s => prepend '\n' (readLongLiteral s)
  | '\r' :: '\n' :: s => prepend '\n' (readLongLiteral s)
  | c :: s => if isPlain c then prepend c (readLongLiteral s) else none
termination_by s => s.length
decreasing_by all_goals simp only [List.length_cons]; omega

/-- Reads a string of any kind, from its opening quote on. -/
def readString : List Char → Reading (List Char)
  | '"' :: '"' :: '"' :: s => readLongBasic (skipNewline s)
  | '"' :: s => readBasic s
  | '\'' :: '\'' :: '\'' :: s => readLongLiteral (skipNewline s)
  | '\'' :: s => readLiteral s
  | _ => none

/-! ## Keys -/

/-- The characters of a key without quotes. -/
def isBare (c : Char) : Bool :=
  c.isAlphanum || c == '_' || c == '-'

/-- Reads a key without dots. -/
def readSimpleKey : List Char → Reading String
  | '"' :: s => (readBasic s).map fun (text, rest) => (String.ofList text, rest)
  | '\'' :: s => (readLiteral s).map fun (text, rest) => (String.ofList text, rest)
  | s =>
    match s.takeWhile isBare with
    | [] => none
    | key => some (String.ofList key, s.dropWhile isBare)

/-- The number of parts that a dotted key stays below. -/
def keyLimit : Nat := 80

/-- Reads a dotted key with the blanks around its parts, as its parts before the last one and its
last one. The first argument bounds the number of parts. -/
def readKeyParts : Nat → List Char → Reading (List String × String)
  | 0, _ => none
  | bound + 1, s =>
    match readSimpleKey (skipBlanks s) with
    | none => none
    | some (key, rest) =>
      match skipBlanks rest with
      | '.' :: rest =>
        (readKeyParts bound rest).map fun ((path, last), rest) => ((key :: path, last), rest)
      | rest => some (([], key), rest)

/-- Reads a dotted key. -/
def readKey (s : List Char) : Reading (List String × String) :=
  readKeyParts (keyLimit - 1) s

end StackMachine.Toml
