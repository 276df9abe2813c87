import StackMachine.Json.Fault

/-!
# Words and strings of JSON texts

Readers take the characters that are left and give a value with the characters after it, or the
first fault. Every reader that succeeds has read at least one character, which is stated beside it:
the loops over members and elements end for that reason.
-/

namespace StackMachine.Json

/-- What a reader gives: a value with the characters after it, or a fault. -/
abbrev Reading (α : Type) := Except Fault (α × List Char)

/-- The four characters that may stand between tokens. -/
def isBlank (c : Char) : Bool :=
  c == ' ' || c == '\t' || c == '\n' || c == '\r'

/-- The text from its first character that is no blank. -/
def skipBlanks (s : List Char) : List Char :=
  s.dropWhile isBlank

/-- Skipping blanks adds nothing. -/
theorem length_skipBlanks_le (s : List Char) : (skipBlanks s).length ≤ s.length :=
  (List.dropWhile_sublist _).length_le

/-! ## Words -/

/-- Reads the given characters, the rest of a word whose first one is read. -/
def readWord : List Char → List Char → Except Fault (List Char)
  | [], s => .ok s
  | _ :: _, [] => .error (.ended .inValue)
  | w :: word, c :: s => if c = w then readWord word s else .error (.grammar .expectedWord)

/-- Reading a word adds nothing. -/
theorem length_le_of_readWord {word s rest : List Char} (h : readWord word s = .ok rest) :
    rest.length ≤ s.length := by
  fun_induction readWord word s with
  | case1 => simp_all
  | case2 => simp at h
  | case3 w word s ih =>
    have := ih h
    simp only [List.length_cons]
    omega
  | case4 => simp at h

/-! ## Escapes -/

/-- The size of a text in bytes. -/
def byteSize : List Char → Nat
  | [] => 0
  | c :: s => c.utf8Size + byteSize s

/-- Reads four digits in base sixteen. The text has ended when fewer than four bytes are left. -/
def readHex (s : List Char) : Reading Nat :=
  match s with
  | a :: b :: c :: d :: rest =>
    match Text.hexValue? a, Text.hexValue? b, Text.hexValue? c, Text.hexValue? d with
    | some a, some b, some c, some d => .ok (((a * 16 + b) * 16 + c) * 16 + d, rest)
    | _, _, _, _ => .error (.grammar .invalidEscape)
  | short =>
    if byteSize short < 4 then .error (.ended .inString) else .error (.grammar .invalidEscape)

/-- Whether a code unit is the first of a surrogate pair. -/
def isHighSurrogate (n : Nat) : Bool :=
  0xd800 ≤ n && n ≤ 0xdbff

/-- Whether a code unit is the second of a surrogate pair. -/
def isLowSurrogate (n : Nat) : Bool :=
  0xdc00 ≤ n && n ≤ 0xdfff

/-- Reads the second half of a surrogate pair, from its backslash on. -/
def readLowSurrogate (high : Nat) : List Char → Reading Char
  | [] => .error (.ended .inString)
  | '\\' :: [] => .error (.ended .inString)
  | '\\' :: 'u' :: s =>
    match readHex s with
    | .error fault => .error fault
    | .ok (low, rest) =>
      if isLowSurrogate low then
        .ok (Char.ofNat (0x10000 + (high - 0xd800) * 0x400 + (low - 0xdc00)), rest)
      else .error (.grammar .misplacedSurrogate)
  | _ => .error (.grammar .unpairedSurrogate)

/-- Reads a numbered escape, from its first digit on. -/
def readNumbered (s : List Char) : Reading Char :=
  match readHex s with
  | .error fault => .error fault
  | .ok (n, rest) =>
    if isLowSurrogate n then .error (.grammar .misplacedSurrogate)
    else if isHighSurrogate n then readLowSurrogate n rest
    else .ok (Char.ofNat n, rest)

/-- The character that a one-letter escape stands for. -/
def escaped? : Char → Option Char
  | '"' => some '"'
  | '\\' => some '\\'
  | '/' => some '/'
  | 'b' => some '\x08'
  | 'f' => some '\x0c'
  | 'n' => some '\n'
  | 'r' => some '\r'
  | 't' => some '\t'
  | _ => none

/-- Reads an escape after its backslash. -/
def readEscape : List Char → Reading Char
  | [] => .error (.ended .inString)
  | 'u' :: s => readNumbered s
  | c :: s =>
    match escaped? c with
    | some character => .ok (character, s)
    | none => .error (.grammar .invalidEscape)

/-- Passes over an escape after its backslash. The number of a numbered escape may be anything. -/
def skipEscape : List Char → Except Fault (List Char)
  | [] => .error (.ended .inString)
  | 'u' :: s => (readHex s).map (·.2)
  | c :: s =>
    match escaped? c with
    | some _ => .ok s
    | none => .error (.grammar .invalidEscape)

/-- Four digits are read from the front. -/
theorem length_lt_of_readHex {s rest : List Char} {n : Nat} (h : readHex s = .ok (n, rest)) :
    rest.length < s.length := by
  unfold readHex at h
  split at h
  · split at h
    · simp only [Except.ok.injEq, Prod.mk.injEq] at h
      simp only [List.length_cons, h.2]
      omega
    · simp at h
  · split at h <;> simp at h

/-- The second half of a pair is read from the front. -/
theorem length_lt_of_readLowSurrogate {high : Nat} {s rest : List Char} {c : Char}
    (h : readLowSurrogate high s = .ok (c, rest)) : rest.length < s.length := by
  unfold readLowSurrogate at h
  split at h
  · simp at h
  · simp at h
  · split at h
    · simp at h
    · rename_i read
      split at h
      · simp only [Except.ok.injEq, Prod.mk.injEq] at h
        have := length_lt_of_readHex read
        simp only [List.length_cons, ← h.2]
        omega
      · simp at h
  · simp at h

/-- An escape is read from the front. -/
theorem length_lt_of_readEscape {s rest : List Char} {c : Char}
    (h : readEscape s = .ok (c, rest)) : rest.length < s.length := by
  unfold readEscape at h
  split at h
  · simp at h
  · unfold readNumbered at h
    split at h
    · simp at h
    · rename_i read
      have first := length_lt_of_readHex read
      split at h
      · simp at h
      · split at h
        · have second := length_lt_of_readLowSurrogate h
          simp only [List.length_cons]
          omega
        · simp only [Except.ok.injEq, Prod.mk.injEq] at h
          simp only [List.length_cons, ← h.2]
          omega
  · split at h
    · simp only [Except.ok.injEq, Prod.mk.injEq] at h
      simp [← h.2]
    · simp at h

/-- An escape is passed over from the front. -/
theorem length_lt_of_skipEscape {s rest : List Char} (h : skipEscape s = .ok rest) :
    rest.length < s.length := by
  unfold skipEscape at h
  split at h
  · simp at h
  · rename_i s
    cases read : readHex s with
    | error fault => simp [read, Except.map] at h
    | ok pair =>
      have := @length_lt_of_readHex _ pair.2 pair.1 read
      simp only [read, Except.map, Except.ok.injEq] at h
      simp only [List.length_cons, ← h]
      omega
  · split at h
    · simp only [Except.ok.injEq] at h
      simp [← h]
    · simp at h

/-! ## Strings -/

/-- Reads a string after its opening quote. -/
def readString : List Char → Reading (List Char)
  | [] => .error (.ended .inString)
  | '"' :: s => .ok ([], s)
  | '\\' :: s =>
    match _read : readEscape s with
    | .error fault => .error fault
    | .ok (c, rest) => (readString rest).map fun (text, after) => (c :: text, after)
  | c :: s =>
    if c < ' ' then .error (.grammar .controlCharacter)
    else (readString s).map fun (text, after) => (c :: text, after)
termination_by s => s.length
decreasing_by
  · have := length_lt_of_readEscape _read
    simp only [List.length_cons]
    omega
  · simp

/-- Passes over a string after its opening quote. -/
def skipString : List Char → Except Fault (List Char)
  | [] => .error (.ended .inString)
  | '"' :: s => .ok s
  | '\\' :: s =>
    match _skipped : skipEscape s with
    | .error fault => .error fault
    | .ok rest => skipString rest
  | c :: s => if c < ' ' then .error (.grammar .controlCharacter) else skipString s
termination_by s => s.length
decreasing_by
  · have := length_lt_of_skipEscape _skipped
    simp only [List.length_cons]
    omega
  · simp

/-- A string is read from the front. -/
theorem length_lt_of_readString {s text rest : List Char} (h : readString s = .ok (text, rest)) :
    rest.length < s.length := by
  fun_induction readString s generalizing text with
  | case1 => simp at h
  | case2 s => simp_all
  | case3 => simp at h
  | case4 s c after read ih =>
    have first := length_lt_of_readEscape read
    cases more : readString after with
    | error fault => simp [more, Except.map] at h
    | ok pair =>
      simp only [more, Except.map, Except.ok.injEq, Prod.mk.injEq] at h
      have second := @ih pair.1 (by rw [more, ← h.2])
      simp only [List.length_cons]
      omega
  | case5 => simp at h
  | case6 c s _ _ _ ih =>
    cases more : readString s with
    | error fault => simp [more, Except.map] at h
    | ok pair =>
      simp only [more, Except.map, Except.ok.injEq, Prod.mk.injEq] at h
      have second := @ih pair.1 (by rw [more, ← h.2])
      simp only [List.length_cons]
      omega

/-- A string is passed over from the front. -/
theorem length_lt_of_skipString {s rest : List Char} (h : skipString s = .ok rest) :
    rest.length < s.length := by
  fun_induction skipString s with
  | case1 => simp at h
  | case2 s => simp_all
  | case3 => simp at h
  | case4 s after skipped ih =>
    have first := length_lt_of_skipEscape skipped
    have second := ih h
    simp only [List.length_cons]
    omega
  | case5 => simp at h
  | case6 c s _ _ _ ih =>
    have second := ih h
    simp only [List.length_cons]
    omega

end StackMachine.Json
