import StackMachine.Json.Skip

/-!
# Items of JSON brackets

Where the next item of a list or an object starts, what a text holds in place of a wanted value, and
the end of a text.
-/

namespace StackMachine.Json

/-- What stands where an item of a bracket may start. -/
inductive ItemStart where
  /-- The bracket is closed, and these characters follow. -/
  | close (rest : List Char)
  /-- An item starts here. -/
  | item (rest : List Char)

/-- Looks for the next item of a bracket. Every item but the first one needs a comma before it, and
a comma needs an item behind it. -/
def startItem (bracket : Bracket) (first : Bool) (s : List Char) : Except Fault ItemStart :=
  match skipBlanks s with
  | [] => .error (.ended bracket.endFault)
  | c :: rest =>
    if c = bracket.closing then .ok (.close rest)
    else if first then .ok (.item (c :: rest))
    else if c = ',' then
      match skipBlanks rest with
      | [] => .error (.ended .inValue)
      | d :: after =>
        if d = bracket.closing then .error (.grammar .trailingComma) else .ok (.item (d :: after))
    else .error (.grammar bracket.commaFault)

/-- Reads the key of a member. -/
def readKey (s : List Char) : Reading String :=
  match s with
  | '"' :: rest =>
    match readString rest with
    | .error fault => .error fault
    | .ok (key, rest) => .ok (String.ofList key, rest)
  | _ => .error (.grammar .keyMustBeString)

/-- The text must be at its end, blanks apart. -/
def expectEnd (s : List Char) : Except Fault Unit :=
  match skipBlanks s with
  | [] => .ok ()
  | _ => .error (.grammar .trailingCharacters)

/-- The fault of a text that holds another value than the wanted one. Scalars are read first, and
their own faults count more. -/
def mismatch (wanted : Wanted) (s : List Char) : Fault :=
  let invalid (found : Found) : Fault := .data (.invalidType found wanted)
  let word (rest read : List Char) (found : Found) : Fault :=
    match readWord rest read with
    | .error fault => fault
    | .ok _ => invalid found
  match s with
  | 'n' :: rest => word ['u', 'l', 'l'] rest .null
  | 't' :: rest => word ['r', 'u', 'e'] rest (.boolean true)
  | 'f' :: rest => word ['a', 'l', 's', 'e'] rest (.boolean false)
  | '[' :: _ => invalid .sequence
  | '{' :: _ => invalid .map
  | '"' :: rest =>
    match readString rest with
    | .error fault => fault
    | .ok (text, _) => invalid (.string (String.ofList text))
  | c :: rest =>
    if c = '-' ∨ c.isDigit then
      match readNumber (c :: rest) with
      | .error fault => fault
      | .ok (.integer value, _) => invalid (.integer value)
      | .ok (.floating value, _) => invalid (.floating value)
    else .grammar .expectedValue
  | [] => .grammar .expectedValue

/-- Looking for an item adds nothing, and an item or a closing bracket is there. -/
theorem length_le_of_startItem {bracket : Bracket} {first : Bool} {s rest : List Char}
    (h : startItem bracket first s = .ok (.item rest)) : rest.length ≤ s.length := by
  have shrinks := length_skipBlanks_le s
  unfold startItem at h
  split at h
  · simp at h
  · rename_i c after blanks
    rw [blanks, List.length_cons] at shrinks
    split at h
    · simp at h
    · split at h
      · simp only [Except.ok.injEq, ItemStart.item.injEq] at h
        rw [← h, List.length_cons]
        omega
      · split at h
        · have inner := length_skipBlanks_le after
          split at h
          · simp at h
          · rename_i more
            rw [more, List.length_cons] at inner
            split at h
            · simp at h
            · simp only [Except.ok.injEq, ItemStart.item.injEq] at h
              rw [← h, List.length_cons]
              omega
        · simp at h

/-- A closing bracket is read from the front. -/
theorem length_lt_of_startItem_close {bracket : Bracket} {first : Bool} {s rest : List Char}
    (h : startItem bracket first s = .ok (.close rest)) : rest.length < s.length := by
  have shrinks := length_skipBlanks_le s
  unfold startItem at h
  split at h
  · simp at h
  · rename_i c after blanks
    rw [blanks, List.length_cons] at shrinks
    split at h
    · simp only [Except.ok.injEq, ItemStart.close.injEq] at h
      rw [← h]
      omega
    · repeat' split at h
      all_goals simp at h

/-- A key is read from the front. -/
theorem length_lt_of_readKey {s rest : List Char} {key : String}
    (h : readKey s = .ok (key, rest)) : rest.length < s.length := by
  unfold readKey at h
  split at h
  · split at h
    · simp at h
    · rename_i read
      have := length_lt_of_readString read
      simp only [Except.ok.injEq, Prod.mk.injEq] at h
      rw [← h.2, List.length_cons]
      omega
  · simp at h

end StackMachine.Json
