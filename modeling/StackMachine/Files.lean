/-!
# Files

What is found under a path, and directories whose files are all known.
-/

namespace StackMachine.Files

/-- Why a path cannot be read. -/
inductive FileFault where
  | missing
  | isDirectory
  | notDirectory
  | nameTooLong
  | zeroInName
  | notText
  /-- Any other reason. -/
  | other (message : String)
  deriving DecidableEq, Repr

/-- The message of a path that cannot be read. -/
def FileFault.message : FileFault → String
  | missing => "No such file or directory (os error 2)"
  | isDirectory => "Is a directory (os error 21)"
  | notDirectory => "Not a directory (os error 20)"
  | nameTooLong => "File name too long (os error 36)"
  | zeroInName => "file name contained an unexpected NUL byte"
  | notText => "stream did not contain valid UTF-8"
  | other message => message

/-- What is found under a path: the bytes of a file, or the reason why there are none. -/
abbrev Lookup := Except FileFault ByteArray

/-- The text that bytes hold, if they are valid UTF-8. -/
def text (bytes : ByteArray) : Except FileFault String :=
  match String.fromUTF8? bytes with
  | some s => .ok s
  | none => .error .notText

/-- The bytes of a text hold that text. -/
theorem text_toUTF8 (s : String) : text s.toUTF8 = .ok s := by
  have valid : String.fromUTF8? s.toUTF8 = some s := dif_pos s.isValidUTF8
  rw [text, valid]

/-! ## Paths -/

/-- The parts of a path, between its slashes. -/
def parts : List Char → List (List Char)
  | [] => [[]]
  | '/' :: s => [] :: parts s
  | c :: s =>
    match parts s with
    | [] => [[c]]
    | part :: rest => (c :: part) :: rest

/-- Parts with slashes between them. -/
def join : List (List Char) → List Char
  | [] => []
  | [part] => part
  | part :: rest => part ++ '/' :: join rest

/-- Whether a part of a path stays where it is. -/
def isStill (part : List Char) : Bool :=
  part == [] || part == ['.']

/-- Whether a part of a path is longer than the name of any file. -/
def isTooLong (part : List Char) : Bool :=
  255 < (String.ofList part).utf8ByteSize

/-- A relative path without the parts that stay where they are. -/
def tidy (path : String) : String :=
  String.ofList (join ((parts path.toList).filter (!isStill ·)))

/-- The path up to its last part that does not stay where it is, if that part names something. -/
def named? (path : String) : Option (List Char) :=
  match ((parts path.toList).reverse.dropWhile isStill) with
  | [] => none
  | part :: before =>
    if part = ['.', '.'] then none else some (join (part :: before).reverse)

/-- The extension in the last part of a path: what follows the last point, unless that is the first
character. -/
def extension? (path : String) : Option (List Char) :=
  match (parts path.toList).reverse.dropWhile isStill with
  | [] => none
  | part :: _ =>
    let after := part.reverse.takeWhile (· != '.')
    if part.length ≤ after.length + 1 then none else some after.reverse

/-! ## Known directories -/

/-- A directory of which all files are known: each file's path, in parts, and its bytes. -/
abbrev Directory := List (List (List Char) × ByteArray)

/-- A place that a path leads to. -/
inductive Place where
  /-- Outside of the directory. Nothing is known to be there. -/
  | outside
  | directory (path : List (List Char))
  | file (bytes : ByteArray)

/-- The place that one part of a path leads to. -/
def Directory.enter (files : Directory) (place : Place) (part : List Char) :
    Except FileFault Place :=
  match place with
  | .file _ => .error .notDirectory
  | .outside =>
    if isStill part ∨ part = ['.', '.'] then .ok .outside
    else if isTooLong part then .error .nameTooLong
    else .error .missing
  | .directory path =>
    if isStill part then .ok place
    else if part = ['.', '.'] then
      .ok (if path = [] then .outside else .directory path.dropLast)
    else if isTooLong part then .error .nameTooLong
    else
      let inner := path ++ [part]
      match files.lookup inner with
      | some bytes => .ok (.file bytes)
      | none =>
        if files.any fun (file, _) => inner.isPrefixOf file then .ok (.directory inner)
        else .error .missing

/-- The place that the parts of a path lead to. -/
def Directory.walk (files : Directory) (place : Place) : List (List Char) → Except FileFault Place
  | [] => .ok place
  | part :: rest =>
    match files.enter place part with
    | .error fault => .error fault
    | .ok place => files.walk place rest

/-- What is found under a path in a directory. Nothing is known outside of it. -/
def Directory.look (files : Directory) (path : String) : Lookup :=
  let s := path.toList
  if s.contains '\x00' then .error .zeroInName
  else if s = [] then .error .missing
  else if 4096 ≤ path.utf8ByteSize then .error .nameTooLong
  else
    let start : Place := if s.head? = some '/' then .outside else .directory []
    match files.walk start (parts s) with
    | .error fault => .error fault
    | .ok (.file bytes) => .ok bytes
    | .ok _ => .error .isDirectory

/-- The directory that holds files under relative paths. -/
def Directory.ofFiles (files : List (String × ByteArray)) : Directory :=
  files.map fun (path, bytes) => ((parts path.toList).filter (!isStill ·), bytes)

end StackMachine.Files
