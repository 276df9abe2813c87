import StackMachine.Json.Number

/-!
# Passing over JSON values

Values that nobody asks for are passed over: their grammar is checked and nothing else, so they may
be nested to any depth and hold numbers of any size.

The brackets that are open are kept in a list, the innermost one first. After a value, `resume`
closes brackets until it finds a comma, behind which the next value stands, or until no bracket is
open any more.
-/

namespace StackMachine.Json

/-- An open bracket. -/
inductive Bracket where
  | list
  | object
  deriving DecidableEq, Repr

/-- The fault of a text that ends inside a bracket. -/
def Bracket.endFault : Bracket → EndFault
  | list => .inList
  | object => .inObject

/-- The fault of a value that is followed by neither a comma nor the end of its bracket. -/
def Bracket.commaFault : Bracket → SyntaxFault
  | list => .expectedCommaOrListEnd
  | object => .expectedCommaOrObjectEnd

/-- The character that closes a bracket. -/
def Bracket.closing : Bracket → Char
  | list => ']'
  | object => '}'

/-- Reads the colon after a key. -/
def readColon (s : List Char) : Except Fault (List Char) :=
  match skipBlanks s with
  | [] => .error (.ended .inObject)
  | ':' :: rest => .ok rest
  | _ => .error (.grammar .expectedColon)

/-- Passes over a key and its colon. -/
def skipKey (s : List Char) : Except Fault (List Char) :=
  match skipBlanks s with
  | [] => .error (.ended .inObject)
  | '"' :: rest =>
    match skipString rest with
    | .error fault => .error fault
    | .ok rest => readColon rest
  | _ => .error (.grammar .keyMustBeString)

/-- Passes over what stands in front of a value in a bracket. -/
def Bracket.skipLead : Bracket → List Char → Except Fault (List Char)
  | list, s => .ok s
  | object, s => skipKey s

/-- Where passing over a value goes on. -/
inductive Resumption where
  /-- Nothing is left to pass over. -/
  | complete (rest : List Char)
  /-- Another value follows inside the brackets. -/
  | value (brackets : List Bracket) (rest : List Char)

/-- Goes on after a value inside the given brackets. -/
def resume : List Bracket → List Char → Except Fault Resumption
  | [], s => .ok (.complete s)
  | bracket :: brackets, s =>
    match skipBlanks s with
    | [] => .error (.ended bracket.endFault)
    | c :: rest =>
      if c = ',' then (bracket.skipLead rest).map (.value (bracket :: brackets))
      else if c = bracket.closing then resume brackets rest
      else .error (.grammar bracket.commaFault)

/-- Goes on after an opening bracket: with its end, or with its first value. -/
def enter (bracket : Bracket) (brackets : List Bracket) (s : List Char) :
    Except Fault Resumption :=
  match skipBlanks s with
  | [] => .error (.ended bracket.endFault)
  | c :: rest =>
    if c = bracket.closing then resume brackets rest
    else (bracket.skipLead (c :: rest)).map (.value (bracket :: brackets))

/-- Passes over a value up to the end of a scalar or into a bracket. -/
def skipStart (brackets : List Bracket) (s : List Char) : Except Fault Resumption :=
  let scalar : Except Fault (List Char) → Except Fault Resumption
    | .error fault => .error fault
    | .ok rest => resume brackets rest
  match skipBlanks s with
  | [] => .error (.ended .inValue)
  | '[' :: rest => enter .list brackets rest
  | '{' :: rest => enter .object brackets rest
  | '"' :: rest => scalar (skipString rest)
  | 'n' :: rest => scalar (readWord ['u', 'l', 'l'] rest)
  | 't' :: rest => scalar (readWord ['r', 'u', 'e'] rest)
  | 'f' :: rest => scalar (readWord ['a', 'l', 's', 'e'] rest)
  | c :: rest =>
    if c = '-' ∨ c.isDigit then scalar (skipNumber (c :: rest))
    else .error (.grammar .expectedValue)

/-- The characters that are left at a resumption. -/
def Resumption.rest : Resumption → List Char
  | complete rest => rest
  | value _ rest => rest

/-- A colon is read from the front. -/
theorem length_lt_of_readColon {s rest : List Char} (h : readColon s = .ok rest) :
    rest.length < s.length := by
  have shrinks := length_skipBlanks_le s
  unfold readColon at h
  split at h
  · simp at h
  · rename_i blanks
    simp only [Except.ok.injEq] at h
    rw [blanks, List.length_cons, h] at shrinks
    omega
  · simp at h

/-- A key is passed over from the front. -/
theorem length_lt_of_skipKey {s rest : List Char} (h : skipKey s = .ok rest) :
    rest.length < s.length := by
  have shrinks := length_skipBlanks_le s
  unfold skipKey at h
  split at h
  · simp at h
  · rename_i blanks
    rw [blanks, List.length_cons] at shrinks
    split at h
    · simp at h
    · rename_i skipped
      have := length_lt_of_skipString skipped
      have := length_lt_of_readColon h
      omega
  · simp at h

/-- What stands in front of a value is passed over from the front. -/
theorem Bracket.length_le_of_skipLead {bracket : Bracket} {s rest : List Char}
    (h : bracket.skipLead s = .ok rest) : rest.length ≤ s.length := by
  cases bracket with
  | list => simp_all [skipLead]
  | object => exact Nat.le_of_lt (length_lt_of_skipKey h)

/-- Going on after a value adds nothing. -/
theorem length_le_of_resume {brackets : List Bracket} {s : List Char} {resumption : Resumption}
    (h : resume brackets s = .ok resumption) : resumption.rest.length ≤ s.length := by
  induction brackets generalizing s with
  | nil =>
    simp only [resume, Except.ok.injEq] at h
    simp [← h, Resumption.rest]
  | cons bracket brackets ih =>
    have shrinks := length_skipBlanks_le s
    unfold resume at h
    split at h
    · simp at h
    · rename_i c rest blanks
      rw [blanks, List.length_cons] at shrinks
      split at h
      · cases lead : bracket.skipLead rest with
        | error fault => simp [lead, Except.map] at h
        | ok after =>
          have := Bracket.length_le_of_skipLead lead
          simp only [lead, Except.map, Except.ok.injEq] at h
          simp only [← h, Resumption.rest]
          omega
      · split at h
        · have := ih h
          omega
        · simp at h

/-- Going on after an opening bracket adds nothing. -/
theorem length_le_of_enter {bracket : Bracket} {brackets : List Bracket} {s : List Char}
    {resumption : Resumption} (h : enter bracket brackets s = .ok resumption) :
    resumption.rest.length ≤ s.length := by
  have shrinks := length_skipBlanks_le s
  unfold enter at h
  split at h
  · simp at h
  · rename_i c rest blanks
    rw [blanks, List.length_cons] at shrinks
    split at h
    · have := length_le_of_resume h
      omega
    · cases lead : bracket.skipLead (c :: rest) with
      | error fault => simp [lead, Except.map] at h
      | ok after =>
        have := Bracket.length_le_of_skipLead lead
        simp only [lead, Except.map, Except.ok.injEq] at h
        simp only [← h, Resumption.rest, List.length_cons] at this ⊢
        omega

/-- The start of a value takes a character off the front. -/
theorem length_lt_of_skipStart {brackets : List Bracket} {s : List Char}
    {resumption : Resumption} (h : skipStart brackets s = .ok resumption) :
    resumption.rest.length < s.length := by
  have shrinks := length_skipBlanks_le s
  unfold skipStart at h
  dsimp only at h
  split at h
  · simp at h
  all_goals
    rename_i blanks
    rw [blanks, List.length_cons] at shrinks
  · have := length_le_of_enter h
    omega
  · have := length_le_of_enter h
    omega
  · split at h
    · simp at h
    · rename_i skipped
      have := length_lt_of_skipString skipped
      have := length_le_of_resume h
      omega
  · split at h
    · simp at h
    · rename_i skipped
      have := length_le_of_readWord skipped
      have := length_le_of_resume h
      omega
  · split at h
    · simp at h
    · rename_i skipped
      have := length_le_of_readWord skipped
      have := length_le_of_resume h
      omega
  · split at h
    · simp at h
    · rename_i skipped
      have := length_le_of_readWord skipped
      have := length_le_of_resume h
      omega
  · split at h
    · split at h
      · simp at h
      · rename_i skipped
        have number := length_lt_of_skipNumber skipped
        have := length_le_of_resume h
        simp only [List.length_cons] at number
        omega
    · simp at h

/-- Passes over the values that are left inside the given brackets, the next one first. -/
def skipValues (brackets : List Bracket) (s : List Char) : Except Fault (List Char) :=
  match _start : skipStart brackets s with
  | .error fault => .error fault
  | .ok (.complete rest) => .ok rest
  | .ok (.value brackets rest) => skipValues brackets rest
termination_by s.length
decreasing_by exact length_lt_of_skipStart _start

/-- Passes over one value. -/
def skipValue (s : List Char) : Except Fault (List Char) :=
  skipValues [] s

/-- At least one character is passed over. -/
theorem length_lt_of_skipValues {brackets : List Bracket} {s rest : List Char}
    (h : skipValues brackets s = .ok rest) : rest.length < s.length := by
  fun_induction skipValues brackets s with
  | case1 => simp at h
  | case2 _ _ _ start =>
    have := length_lt_of_skipStart start
    simp_all [Resumption.rest]
  | case3 brackets s inner after start ih =>
    have first := length_lt_of_skipStart start
    have second := ih h
    simp only [Resumption.rest] at first
    omega

/-- A value is passed over from the front. -/
theorem length_lt_of_skipValue {s rest : List Char} (h : skipValue s = .ok rest) :
    rest.length < s.length :=
  length_lt_of_skipValues h

end StackMachine.Json
